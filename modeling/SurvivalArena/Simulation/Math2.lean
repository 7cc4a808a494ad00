import SurvivalArena.Exception
import SurvivalArena.Framework.Scalar

/-!
# Plane geometry

Vectors on the ground plane and axis-aligned boxes.
-/

namespace SurvivalArena

structure Vec2 (R : Type) where
  x : R
  z : R
deriving DecidableEq

variable {R : Type} [Scalar R]

namespace Vec2

def isFinite (value : Vec2 R) : Bool :=
  Scalar.isFinite value.x && Scalar.isFinite value.z

instance : Add (Vec2 R) := ⟨fun left right =>
  ⟨left.x + right.x, left.z + right.z⟩⟩

instance : Sub (Vec2 R) := ⟨fun left right =>
  ⟨left.x - right.x, left.z - right.z⟩⟩

instance : HMul (Vec2 R) R (Vec2 R) := ⟨fun value scalar =>
  ⟨value.x * scalar, value.z * scalar⟩⟩

def divide (value : Vec2 R) (scalar : R) : Except Exception (Vec2 R) := do
  throwIf (!Scalar.isFinite scalar || Scalar.equal scalar 0)
    (.invalidArgument "Vec2 division requires a finite non-zero scalar")
  pure ⟨value.x / scalar, value.z / scalar⟩

def dot (left right : Vec2 R) : R :=
  left.x * right.x + left.z * right.z

def lengthSquared (value : Vec2 R) : R :=
  dot value value

def length (value : Vec2 R) : Except Exception R := do
  throwIf (!Scalar.isFinite value.lengthSquared)
    (.invalidArgument "Vec2 length requires finite coordinates")
  pure (Scalar.sqrt value.lengthSquared)

def distance (left right : Vec2 R) : Except Exception R :=
  length (right - left)

def normalize (value : Vec2 R) : Except Exception (Vec2 R) := do
  let length ← value.length
  throwIf (decide (length ≤ 0))
    (.invalidArgument "Vec2 normalization requires non-zero length")
  value.divide length

end Vec2

structure Aabb2 (R : Type) where
  minimum : Vec2 R
  maximum : Vec2 R
deriving DecidableEq

namespace Aabb2

def create (minimum maximum : Vec2 R) : Except Exception (Aabb2 R) := do
  throwIf (!minimum.isFinite || !maximum.isFinite ||
      decide (maximum.x < minimum.x) || decide (maximum.z < minimum.z))
    (.invalidArgument "Aabb2 requires finite ordered bounds")
  pure ⟨minimum, maximum⟩

def contains (box : Aabb2 R) (point : Vec2 R) : Bool :=
  point.isFinite && decide (box.minimum.x ≤ point.x) &&
    decide (point.x ≤ box.maximum.x) && decide (box.minimum.z ≤ point.z) &&
    decide (point.z ≤ box.maximum.z)

def containsBox (box other : Aabb2 R) : Bool :=
  box.contains other.minimum && box.contains other.maximum

def intersects (box other : Aabb2 R) : Bool :=
  decide (box.minimum.x ≤ other.maximum.x) && decide (other.minimum.x ≤ box.maximum.x) &&
    decide (box.minimum.z ≤ other.maximum.z) && decide (other.minimum.z ≤ box.maximum.z)

def center (box : Aabb2 R) : Vec2 R where
  x := (box.minimum.x + box.maximum.x) * 0.5
  z := (box.minimum.z + box.maximum.z) * 0.5

end Aabb2

end SurvivalArena
