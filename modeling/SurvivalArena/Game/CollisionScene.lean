import SurvivalArena.Framework.Edges
import SurvivalArena.Framework.Machine
import SurvivalArena.Game.QuadTree

/-!
# Collisions of a scene

The upkeep of the quadtree and the collision check of each frame.  What a frame shows of an
object (its place, whether the camera sees it and where on the screen, whether its collider
meets another) is given with the frame; distances are exact.
-/

namespace SurvivalArena

/-- An object of the scene in a frame; the number of its collider stands for the object. -/
structure SceneObject (P : Type) where
  id : Nat
  hasCollider : Bool
  active : Bool
  position : P
  visible : Bool
  screenBounds : Rect

/-- The scene in a frame.  Two colliders meet in either order. -/
structure SceneFrame (P : Type) where
  objects : List (SceneObject P)
  cameraPosition : P
  cameraRotation : P
  intersects : Nat → Nat → Bool
  intersects_comm : ∀ first second, intersects first second = intersects second first

/-- The pair of two colliders, the lower number first. -/
def colliderPair (first second : Nat) : Nat × Nat :=
  if first < second then (first, second) else (second, first)

/-- A call of `OnCollisionEnter`, `OnCollision` or `OnCollisionExit` of the receiver. -/
structure CollisionCallback where
  kind : Edge
  receiver : Nat
  other : Nat
deriving DecidableEq

/-- What the check of a frame carries from pair to pair. -/
structure CollisionPass where
  collisionMap : Nat × Nat → Option Bool
  processedPairs : List (Nat × Nat)
  callbacks : List CollisionCallback

namespace CollisionPass

def call (pass : CollisionPass) (kind : Edge) (first second : Nat) : CollisionPass :=
  { pass with
    callbacks := pass.callbacks ++ [⟨kind, first, second⟩, ⟨kind, second, first⟩] }

def setColliding (pass : CollisionPass) (id : Nat × Nat) (value : Bool) : CollisionPass :=
  { pass with collisionMap := Function.update pass.collisionMap id (some value) }

def processCollisionPair (intersects : Nat → Nat → Bool) (pass : CollisionPass)
    (pair : Nat × Nat) : CollisionPass :=
  let (first, second) := pair
  let id := colliderPair first second
  if id ∈ pass.processedPairs then pass
  else
    let pass := { pass with processedPairs := id :: pass.processedPairs }
    -- a pair that is new in the map is entered as not colliding
    let pass :=
      match pass.collisionMap id with
      | none => pass.setColliding id false
      | some _ => pass
    if intersects first second then
      if pass.collisionMap id = some false then
        (pass.call .enter first second).setColliding id true
      else pass.call .stay first second
    else if pass.collisionMap id = some true then
      (pass.call .exit first second).setColliding id false
    else pass

end CollisionPass

/-- The scene between frames: the tree, what its last rebuild saw and the pairs that
collided. -/
structure CollisionScene (P : Type) where
  root : QuadTreeNode
  quadTreeDirty : Bool
  lastCameraPosition : P
  lastCameraRotation : P
  lastObjectCount : Nat
  lastObjectPositions : Nat → Option P
  lastObjectActives : Nat → Option Bool
  mapColInfo : Nat × Nat → Option Bool

namespace CollisionScene

variable {P K : Type} [Field K] [LinearOrder K] (distance : P → P → K)

/-- The object was not there, active as now and near its place when the tree was last
found to be out of date. -/
def objectChanged (scene : CollisionScene P) (object : SceneObject P) : Bool :=
  object.hasCollider &&
    match scene.lastObjectActives object.id with
    | none => true
    | some active =>
      active != object.active ||
        match scene.lastObjectPositions object.id with
        | none => true
        | some position => 1 / 10 < distance position object.position

def needsRebuild (scene : CollisionScene P) (frame : SceneFrame P) : Bool :=
  frame.objects.any (scene.objectChanged distance) ||
    1 / 10 < distance scene.lastCameraPosition frame.cameraPosition ||
    1 / 100 < distance scene.lastCameraRotation frame.cameraRotation ||
    frame.objects.length != scene.lastObjectCount

/-- The tree of the visible objects of a frame that are active and have a collider. -/
def buildTree (bounds : Rect) (frame : SceneFrame P) : QuadTreeNode :=
  let screenBounds := fun id =>
    ((frame.objects.find? fun object => object.id = id).map (·.screenBounds)).getD
      ⟨-10000, -10000, -10000, -10000⟩
  (frame.objects.filter fun object =>
    object.visible && object.hasCollider && object.active).foldl
      (fun node object =>
        node.insertIntoNode screenBounds QuadTreeNode.MAX_DEPTH object.id)
      (.leaf bounds [])

def recordObjects (frame : SceneFrame P) (scene : CollisionScene P) : CollisionScene P :=
  (frame.objects.filter (·.hasCollider)).foldl
    (fun scene object =>
      { scene with
        lastObjectPositions :=
          Function.update scene.lastObjectPositions object.id (some object.position)
        lastObjectActives :=
          Function.update scene.lastObjectActives object.id (some object.active) })
    scene

def updateQuadTree (scene : CollisionScene P) (frame : SceneFrame P) : CollisionScene P :=
  let scene :=
    if scene.needsRebuild distance frame then
      { scene with
        quadTreeDirty := true
        lastCameraPosition := frame.cameraPosition
        lastCameraRotation := frame.cameraRotation
        lastObjectCount := frame.objects.length }.recordObjects frame
    else scene
  if scene.quadTreeDirty then
    { scene with
      root := buildTree scene.root.bounds frame
      quadTreeDirty := false }
  else scene

def checkCollisionWithQuadTree (scene : CollisionScene P) (frame : SceneFrame P) :
    CollisionScene P × List CollisionCallback :=
  let pass := scene.root.collisionPairs.foldl
    (CollisionPass.processCollisionPair frame.intersects) ⟨scene.mapColInfo, [], []⟩
  ({ scene with mapColInfo := pass.collisionMap }, pass.callbacks)

/-- A frame of the scene. -/
def update (scene : CollisionScene P) (frame : SceneFrame P) :
    CollisionScene P × List CollisionCallback :=
  (scene.updateQuadTree distance frame).checkCollisionWithQuadTree frame

/-- The scene as it starts with a frame: the tree is new and no pair has collided, but what
the upkeep remembers outlives a scene. -/
def start (scene : CollisionScene P) (bounds : Rect) (frame : SceneFrame P) :
    CollisionScene P :=
  { scene with
    root := .leaf bounds []
    quadTreeDirty := true
    mapColInfo := fun _ => none }.updateQuadTree distance frame

end CollisionScene

end SurvivalArena
