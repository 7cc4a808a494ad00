import SurvivalArena.Framework.KeyedList
import SurvivalArena.Framework.UIntOrder
import SurvivalArena.Simulation.Math2

/-!
# Spatial index

A loose quadtree over boxes.  A node that holds too many entities splits into four
children with enlarged bounds; an entity goes down into the one child that contains
it, and stays where it is when several do.  The counter of tested bounds is left out.
-/

namespace SurvivalArena

open KeyedList

structure SpatialEntity (R : Type) where
  id : UInt32
  bounds : Aabb2 R
deriving DecidableEq

structure LooseQuadtreeConfig (R : Type) [Scalar R] where
  looseness : R := 1.5
  nodeCapacity : Nat := 8
  maximumDepth : Nat := 6

inductive QuadtreeNode (R : Type) where
  | leaf (tightBounds looseBounds : Aabb2 R) (entities : List (SpatialEntity R))
  | split (tightBounds looseBounds : Aabb2 R) (entities : List (SpatialEntity R))
      (first second third fourth : QuadtreeNode R)

variable {R : Type} [Scalar R]

def validateAndSortEntities (entities : List (SpatialEntity R)) :
    Except Exception (List (SpatialEntity R)) := do
  throwIf (decide (2 ^ 32 - 1 < entities.length))
    (.invalidArgument "Spatial index contains too many entities")
  let sorted := sortByKey SpatialEntity.id entities
  throwIf (hasAdjacentDuplicate SpatialEntity.id sorted)
    (.invalidArgument "Spatial entity IDs must be unique")
  pure sorted

def makeLooseBounds (tightBounds : Aabb2 R) (looseness : R) : Except Exception (Aabb2 R) :=
  let center := tightBounds.center
  let halfExtent := (tightBounds.maximum - tightBounds.minimum) * ((0.5 : R) * looseness)
  Aabb2.create (center - halfExtent) (center + halfExtent)

namespace QuadtreeNode

def looseBounds : QuadtreeNode R → Aabb2 R
  | leaf _ looseBounds _ => looseBounds
  | split _ looseBounds _ _ _ _ _ => looseBounds

def create (bounds : Aabb2 R) (looseness : R) : Except Exception (QuadtreeNode R) := do
  let looseBounds ← makeLooseBounds bounds looseness
  pure (.leaf bounds looseBounds [])

/-- The four empty children of a node. -/
def createChildren (bounds : Aabb2 R) (looseness : R) :
    Except Exception (QuadtreeNode R × QuadtreeNode R × QuadtreeNode R × QuadtreeNode R) := do
  let minimum := bounds.minimum
  let maximum := bounds.maximum
  let center := bounds.center
  let firstBounds ← Aabb2.create minimum center
  let secondBounds ← Aabb2.create ⟨center.x, minimum.z⟩ ⟨maximum.x, center.z⟩
  let thirdBounds ← Aabb2.create ⟨minimum.x, center.z⟩ ⟨center.x, maximum.z⟩
  let fourthBounds ← Aabb2.create center maximum
  let first ← create firstBounds looseness
  let second ← create secondBounds looseness
  let third ← create thirdBounds looseness
  let fourth ← create fourthBounds looseness
  pure (first, second, third, fourth)

/-- The one child that contains a box, none when no child or several do. -/
def containingChild (children : List (QuadtreeNode R)) (bounds : Aabb2 R) : Option Nat :=
  match children.zipIdx.filter fun child => child.1.looseBounds.containsBox bounds with
  | [child] => some child.2
  | _ => none

/-- Insert an entity into a node that may still split `levels` times below. -/
def insert (config : LooseQuadtreeConfig R) :
    Nat → QuadtreeNode R → SpatialEntity R → Except Exception (QuadtreeNode R)
  | 0, .leaf tight loose entities, entity => .ok (.leaf tight loose (entities ++ [entity]))
  | 0, .split tight loose entities first second third fourth, entity =>
    .ok (.split tight loose (entities ++ [entity]) first second third fourth)
  | levels + 1, node, entity =>
    let place : QuadtreeNode R → SpatialEntity R → Except Exception (QuadtreeNode R)
      | .leaf tight loose entities, entity =>
        .ok (.leaf tight loose (entities ++ [entity]))
      | .split tight loose entities first second third fourth, entity =>
        match containingChild [first, second, third, fourth] entity.bounds with
        | some 0 => do
          let first ← insert config levels first entity
          pure (.split tight loose entities first second third fourth)
        | some 1 => do
          let second ← insert config levels second entity
          pure (.split tight loose entities first second third fourth)
        | some 2 => do
          let third ← insert config levels third entity
          pure (.split tight loose entities first second third fourth)
        | some _ => do
          let fourth ← insert config levels fourth entity
          pure (.split tight loose entities first second third fourth)
        | none => .ok (.split tight loose (entities ++ [entity]) first second third fourth)
    match node with
    | .leaf tight loose entities =>
      if config.nodeCapacity < (entities ++ [entity]).length then do
        let (first, second, third, fourth) ← createChildren tight config.looseness
        (entities ++ [entity]).foldlM place (.split tight loose [] first second third fourth)
      else place node entity
    | .split .. => place node entity

/-- The entities that meet a box, in the order they are visited. -/
def queryAabb (bounds : Aabb2 R) : QuadtreeNode R → List UInt32
  | leaf _ loose entities =>
    if loose.intersects bounds then
      (entities.filter fun entity => entity.bounds.intersects bounds).map SpatialEntity.id
    else []
  | split _ loose entities first second third fourth =>
    if loose.intersects bounds then
      (entities.filter fun entity => entity.bounds.intersects bounds).map SpatialEntity.id ++
        first.queryAabb bounds ++ second.queryAabb bounds ++ third.queryAabb bounds ++
        fourth.queryAabb bounds
    else []

/-- The entities that hold a point, in the order they are visited. -/
def pickPoint (point : Vec2 R) : QuadtreeNode R → List UInt32
  | leaf _ loose entities =>
    if loose.contains point then
      (entities.filter fun entity => entity.bounds.contains point).map SpatialEntity.id
    else []
  | split _ loose entities first second third fourth =>
    if loose.contains point then
      (entities.filter fun entity => entity.bounds.contains point).map SpatialEntity.id ++
        first.pickPoint point ++ second.pickPoint point ++ third.pickPoint point ++
        fourth.pickPoint point
    else []

end QuadtreeNode

def looseQuadtree (worldBounds : Aabb2 R) (entities : List (SpatialEntity R))
    (config : LooseQuadtreeConfig R) : Except Exception (QuadtreeNode R) := do
  let entities ← validateAndSortEntities entities
  let worldExtent := worldBounds.maximum - worldBounds.minimum
  throwIf (!Scalar.isFinite config.looseness || decide (config.looseness < 1.0) ||
      config.nodeCapacity == 0 || config.maximumDepth == 0 ||
      decide (worldExtent.x ≤ 0) || decide (worldExtent.z ≤ 0))
    (.invalidArgument "LooseQuadtree configuration is invalid")
  throwIf (!entities.all fun entity => worldBounds.containsBox entity.bounds)
    (.invalidArgument "Spatial entity is outside the quadtree world")
  let root ← QuadtreeNode.create worldBounds config.looseness
  entities.foldlM (QuadtreeNode.insert config config.maximumDepth) root

/-- The numbers of the entities that meet a box, ascending. -/
def queryAabb (tree : QuadtreeNode R) (bounds : Aabb2 R) : List UInt32 :=
  unique (sortByKey id (tree.queryAabb bounds))

/-- The numbers of the entities that hold a point, ascending. -/
def pickPoint (tree : QuadtreeNode R) (point : Vec2 R) : Except Exception (List UInt32) := do
  throwIf (!point.isFinite) (.invalidArgument "Spatial point query must be finite")
  pure (unique (sortByKey id (tree.pickPoint point)))

/-- The index that looks at every entity. -/
structure LinearSpatialIndex (R : Type) where
  entities : List (SpatialEntity R)

namespace LinearSpatialIndex

def create (entities : List (SpatialEntity R)) : Except Exception (LinearSpatialIndex R) := do
  let entities ← validateAndSortEntities entities
  pure { entities }

def queryAabb (index : LinearSpatialIndex R) (bounds : Aabb2 R) : List UInt32 :=
  (index.entities.filter fun entity => entity.bounds.intersects bounds).map SpatialEntity.id

def pickPoint (index : LinearSpatialIndex R) (point : Vec2 R) :
    Except Exception (List UInt32) := do
  throwIf (!point.isFinite) (.invalidArgument "Spatial point query must be finite")
  pure ((index.entities.filter fun entity => entity.bounds.contains point).map
    SpatialEntity.id)

end LinearSpatialIndex

end SurvivalArena
