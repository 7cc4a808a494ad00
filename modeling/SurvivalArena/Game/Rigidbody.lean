import SurvivalArena.Game.MathUtils

/-!
# Rigid bodies

The push that moves a rigid body out of what it collides with, for the nine combinations of
spheres, axis-aligned boxes and oriented boxes.  The tests whether boxes intersect are those of the
vector library.
-/

namespace SurvivalArena

namespace Rigidbody

variable (K : Type) [Field K] [LinearOrder K]

structure BoundingSphere where
  center : Vec3 K
  radius : K
  radius_nonneg : 0 ≤ radius

structure BoundingBox where
  center : Vec3 K
  extents : Vec3 K
  extents_nonneg : 0 ≤ extents.x ∧ 0 ≤ extents.y ∧ 0 ≤ extents.z

/-- A quaternion of length one, which stands for a rotation. -/
structure UnitQuaternion where
  x : K
  y : K
  z : K
  w : K
  unit : x * x + y * y + z * z + w * w = 1

structure BoundingOrientedBox where
  center : Vec3 K
  extents : Vec3 K
  orientation : UnitQuaternion K
  extents_nonneg : 0 ≤ extents.x ∧ 0 ≤ extents.y ∧ 0 ≤ extents.z

inductive Collider where
  | sphere (bound : BoundingSphere K)
  | aabb (box : BoundingBox K)
  | obb (box : BoundingOrientedBox K)

/-- The tests of the vector library. -/
structure BoxTests where
  aabbAabb : BoundingBox K → BoundingBox K → Bool
  aabbObb : BoundingBox K → BoundingOrientedBox K → Bool
  obbObb : BoundingOrientedBox K → BoundingOrientedBox K → Bool

/-- The direction and the force of a push. -/
structure Push where
  dir : Vec3 K
  force : K

variable {K}

/-- The rows of the rotation matrix of a quaternion. -/
def UnitQuaternion.rotation (q : UnitQuaternion K) : Orientation K where
  right := ⟨1 - 2 * (q.y * q.y) - 2 * (q.z * q.z), 2 * (q.x * q.y) + 2 * (q.z * q.w),
    2 * (q.x * q.z) - 2 * (q.y * q.w)⟩
  up := ⟨2 * (q.x * q.y) - 2 * (q.z * q.w), 1 - 2 * (q.x * q.x) - 2 * (q.z * q.z),
    2 * (q.y * q.z) + 2 * (q.x * q.w)⟩
  backward := ⟨2 * (q.x * q.z) + 2 * (q.y * q.w), 2 * (q.y * q.z) - 2 * (q.x * q.w),
    1 - 2 * (q.x * q.x) - 2 * (q.y * q.y)⟩

/-- The point of the box that is closest to another point. -/
def BoundingBox.closest (box : BoundingBox K) (point : Vec3 K) : Vec3 K :=
  let boxMin := box.center - box.extents
  let boxMax := box.center + box.extents
  ⟨min boxMax.x (max boxMin.x point.x), min boxMax.y (max boxMin.y point.y),
    min boxMax.z (max boxMin.z point.z)⟩

/-- The closest point, found in the box's own coordinates. -/
def BoundingOrientedBox.closest (box : BoundingOrientedBox K) (point : Vec3 K) : Vec3 K :=
  let toSphere := point - box.center
  let rotation := box.orientation.rotation
  let localX := max (-box.extents.x) (min box.extents.x (toSphere.dot rotation.right))
  let localY := max (-box.extents.y) (min box.extents.y (toSphere.dot rotation.up))
  let localZ := max (-box.extents.z) (min box.extents.z (toSphere.dot rotation.backward))
  box.center + (rotation.right.scale localX + rotation.up.scale localY +
    rotation.backward.scale localZ)

section Push

variable [SquareRoot K]

def pushSpheres (boundA boundB : BoundingSphere K) : Push K :=
  let dir := boundB.center - boundA.center
  let dist := dir.length
  let radius := boundA.radius + boundB.radius
  ⟨if 0.001 < dist then dir.normalize else ⟨0, 0, 0⟩, radius - dist⟩

def pushBoxSphere (box : BoundingBox K) (sphere : BoundingSphere K) : Option (Push K) :=
  let dirVec := sphere.center - box.closest sphere.center
  let distSq := dirVec.dot dirVec
  if sphere.radius * sphere.radius ≤ distSq then none
  else
    let dist := SquareRoot.root distSq
    let dir := if 0.001 < dist then dirVec.scale (1 / dist) else ⟨0, 0, 0⟩
    some ⟨dir, -(sphere.radius - dist)⟩

def pushObbSphere (box : BoundingOrientedBox K) (sphere : BoundingSphere K) :
    Option (Push K) :=
  let dir := sphere.center - box.closest sphere.center
  let distSq := dir.dot dir
  if sphere.radius * sphere.radius ≤ distSq then none
  else
    let dist := SquareRoot.root distSq
    some ⟨if 0.0001 < dist then dir.normalize else ⟨0, 0, 0⟩, sphere.radius - dist⟩

omit [SquareRoot K] in
/-- The push along the axis on which the boxes overlap least. -/
def pushBoxes (tests : BoxTests K) (boxA boxB : BoundingBox K) : Option (Push K) :=
  if !tests.aabbAabb boxA boxB then none
  else
    let dir := boxB.center - boxA.center
    let overlapX := boxA.extents.x + boxB.extents.x - |dir.x|
    let overlapY := boxA.extents.y + boxB.extents.y - |dir.y|
    let overlapZ := boxA.extents.z + boxB.extents.z - |dir.z|
    if overlapX ≤ 0 ∨ overlapY ≤ 0 ∨ overlapZ ≤ 0 then none
    else if overlapX < overlapY ∧ overlapX < overlapZ then
      some ⟨⟨if 0 < dir.x then 1 else -1, 0, 0⟩, overlapX⟩
    else if overlapY < overlapZ then
      some ⟨⟨0, if 0 < dir.y then 1 else -1, 0⟩, overlapY⟩
    else some ⟨⟨0, 0, if 0 < dir.z then 1 else -1⟩, overlapZ⟩

def pushBoxObb (tests : BoxTests K) (boxA : BoundingBox K) (boxB : BoundingOrientedBox K) :
    Option (Push K) :=
  if !tests.aabbObb boxA boxB then none
  else
    let dir := boxB.center - boxA.center
    if dir.dot dir < 0.0001 then none
    else
      let avgSizeA := (boxA.extents.x + boxA.extents.y + boxA.extents.z) / 3
      let avgSizeB := (boxB.extents.x + boxB.extents.y + boxB.extents.z) / 3
      some ⟨dir.normalize, (avgSizeA + avgSizeB) * 0.1⟩

def pushObbs (tests : BoxTests K) (boxA boxB : BoundingOrientedBox K) : Option (Push K) :=
  if !tests.obbObb boxA boxB then none
  else
    let dir := boxB.center - boxA.center
    if dir.dot dir < 0.0001 then none
    else some ⟨dir.normalize, min boxA.extents.length boxB.extents.length * 0.1⟩

/-- The push for two colliders; the mirrored combinations call the ones they mirror. -/
def computePushMove (tests : BoxTests K) : Collider K → Collider K → Option (Push K)
  | .sphere my, .sphere other => some (pushSpheres my other)
  | .aabb my, .sphere other => pushBoxSphere my other
  | .sphere my, .aabb other => pushBoxSphere other my
  | .obb my, .sphere other => pushObbSphere my other
  | .sphere my, .obb other => pushObbSphere other my
  | .aabb my, .aabb other => pushBoxes tests my other
  | .aabb my, .obb other => pushBoxObb tests my other
  | .obb my, .aabb other => pushBoxObb tests other my
  | .obb my, .obb other => pushObbs tests my other

/-! ## Collisions -/

variable (K) in
structure Body where
  velocity : Vec3 K
  isStatic : Bool

variable (K) in
structure GameObject where
  position : Vec3 K
  collider : Option (Collider K)
  rigidbody : Option (Body K)

omit [SquareRoot K] in
/-- The body, if there is one, stands still. -/
def GameObject.stop (object : GameObject K) : GameObject K :=
  { object with rigidbody := object.rigidbody.map fun body =>
      { body with velocity := ⟨0, 0, 0⟩ } }

omit [SquareRoot K] in
/-- The object has no rigid body, or one that does not move. -/
def GameObject.isWall (object : GameObject K) : Bool :=
  object.rigidbody.all Body.isStatic

/-- The object and the other one after their collision. -/
def onCollision (tests : BoxTests K) (self other : GameObject K) :
    GameObject K × GameObject K :=
  match self.collider, other.collider with
  | some myCollider, some otherCollider =>
    match computePushMove tests myCollider otherCollider with
    | some push =>
      let correction := push.dir.scale push.force
      if other.isWall then
        ({ self.stop with position := self.position - correction.scale 1 }, other.stop)
      else
        ({ self.stop with position := self.position - correction.scale 0.505 },
          { other.stop with position := other.position + correction.scale 0.505 })
    | none => (self, other)
  | _, _ => (self, other)

end Push

end Rigidbody

/-! ## The law of pushes

Two colliders should push each other apart by opposite corrections.  Spheres do, unless their
centres are too close to tell a direction.
-/

namespace Rigidbody

/-! ## Colliders in space -/

section Space

variable {K : Type} [Field K] [LinearOrder K]

namespace Collider

def center : Collider K → Vec3 K
  | .sphere bound => bound.center
  | .aabb box => box.center
  | .obb box => box.center

/-- The collider at another place. -/
def move (displacement : Vec3 K) : Collider K → Collider K
  | .sphere bound => .sphere { bound with center := bound.center + displacement }
  | .aabb box => .aabb { box with center := box.center + displacement }
  | .obb box => .obb { box with center := box.center + displacement }

end Collider

def BoundingBox.Contains (box : BoundingBox K) (point : Vec3 K) : Prop :=
  |point.x - box.center.x| ≤ box.extents.x ∧ |point.y - box.center.y| ≤ box.extents.y ∧
    |point.z - box.center.z| ≤ box.extents.z

def BoundingOrientedBox.Contains (box : BoundingOrientedBox K) (point : Vec3 K) : Prop :=
  |(point - box.center).dot box.orientation.rotation.right| ≤ box.extents.x ∧
    |(point - box.center).dot box.orientation.rotation.up| ≤ box.extents.y ∧
    |(point - box.center).dot box.orientation.rotation.backward| ≤ box.extents.z

/-- The tests find exactly the boxes with a common point. -/
structure BoxTests.Exact (tests : BoxTests K) : Prop where
  aabbAabb : ∀ a b, tests.aabbAabb a b = true ↔ ∃ point, a.Contains point ∧ b.Contains point
  aabbObb : ∀ a b, tests.aabbObb a b = true ↔ ∃ point, a.Contains point ∧ b.Contains point
  obbObb : ∀ a b, tests.obbObb a b = true ↔ ∃ point, a.Contains point ∧ b.Contains point

/-- How far two boxes overlap on the axis on which they overlap least. -/
def overlap (a b : BoundingBox K) : K :=
  min (min (a.extents.x + b.extents.x - |(b.center - a.center).x|)
    (a.extents.y + b.extents.y - |(b.center - a.center).y|))
    (a.extents.z + b.extents.z - |(b.center - a.center).z|)

/-- How far the centres of two boxes are apart on the axis that separates them. -/
def leastOffset (a b : BoundingBox K) : K :=
  let dir := b.center - a.center
  let overlapX := a.extents.x + b.extents.x - |dir.x|
  let overlapY := a.extents.y + b.extents.y - |dir.y|
  let overlapZ := a.extents.z + b.extents.z - |dir.z|
  if overlapX < overlapY ∧ overlapX < overlapZ then dir.x
  else if overlapY < overlapZ then dir.y
  else dir.z

variable [SquareRoot K]

/-- The colliders overlap, and if they are a box and a sphere the sphere's centre is outside. -/
def Overlapping : Collider K → Collider K → Prop
  | .sphere a, .sphere b => (b.center - a.center).length < a.radius + b.radius
  | .aabb box, .sphere bound | .sphere bound, .aabb box =>
    (bound.center - box.closest bound.center).length < bound.radius ∧
      box.closest bound.center ≠ bound.center
  | .obb box, .sphere bound | .sphere bound, .obb box =>
    (bound.center - box.closest bound.center).length < bound.radius ∧
      box.closest bound.center ≠ bound.center
  | .aabb a, .aabb b => 0 < overlap a b
  | _, _ => False

/-- The colliders touch and do not overlap. -/
def Touching : Collider K → Collider K → Prop
  | .sphere a, .sphere b => (b.center - a.center).length = a.radius + b.radius
  | .aabb box, .sphere bound | .sphere bound, .aabb box =>
    (bound.center - box.closest bound.center).length = bound.radius
  | .obb box, .sphere bound | .sphere bound, .obb box =>
    (bound.center - box.closest bound.center).length = bound.radius
  | .aabb a, .aabb b => overlap a b = 0
  | _, _ => False

/-! ## The law -/

/-- The direction times the force. -/
def correction (tests : BoxTests K) (my other : Collider K) : Option (Vec3 K) :=
  (computePushMove tests my other).map fun push => push.dir.scale push.force

/-- A collision with a wall takes the object out of it, if they overlap at different centres. -/
def Separates (tests : BoxTests K) (my other : Collider K) : Prop :=
  Overlapping my other → my.center ≠ other.center →
    ∀ self wall : GameObject K, self.collider = some my → wall.collider = some other →
      wall.isWall = true →
      Touching (my.move ((onCollision tests self wall).1.position - self.position)) other

/-- Colliders push each other by opposite corrections, which separate them whichever moves. -/
structure PushLaw (tests : BoxTests K) (a b : Collider K) : Prop where
  opposite : correction tests b a = (correction tests a b).map fun push => push.scale (-1)
  first : Separates tests a b
  second : Separates tests b a

/-- When the pushes are right, by the kinds of the colliders. -/
def PushCondition (tests : BoxTests K) : Collider K → Collider K → Prop
  | .sphere a, .sphere b => a.center ≠ b.center →
    (b.center - a.center).length < a.radius + b.radius → 0.001 < (b.center - a.center).length
  | .aabb box, .sphere bound | .sphere bound, .aabb box =>
    bound.radius ≤ (bound.center - box.closest bound.center).length ∨
      box.closest bound.center = bound.center
  | .obb box, .sphere bound | .sphere bound, .obb box =>
    bound.radius ≤ (bound.center - box.closest bound.center).length ∨
      box.closest bound.center = bound.center
  | .aabb a, .aabb b => 0 < overlap a b → leastOffset a b ≠ 0
  | .aabb a, .obb b => tests.aabbObb a b = true →
    (b.center - a.center).dot (b.center - a.center) < 0.0001
  | .obb b, .aabb a => tests.aabbObb a b = true →
    (b.center - a.center).dot (b.center - a.center) < 0.0001
  | .obb _, .obb _ => True

/-- The collider after a collision with a wall. -/
def pushed (tests : BoxTests K) (my other : Collider K) : Collider K :=
  my.move ((correction tests my other).elim ⟨0, 0, 0⟩ fun push => push.scale (-1))

theorem pushed_some {tests : BoxTests K} {my other : Collider K} {push : Vec3 K}
    (h : correction tests my other = some push) :
    pushed tests my other = my.move (push.scale (-1)) := by
  rw [pushed, h]
  rfl

theorem onCollision_wall (tests : BoxTests K) {self wall : GameObject K} {my other : Collider K}
    (hself : self.collider = some my) (hwall : wall.collider = some other)
    (hstands : wall.isWall = true) :
    my.move ((onCollision tests self wall).1.position - self.position) =
      pushed tests my other := by
  unfold pushed correction onCollision
  rw [hself, hwall]
  dsimp only
  cases computePushMove tests my other with
  | none =>
    congr 1
    ext <;> exact sub_self _
  | some push =>
    dsimp only
    rw [if_pos hstands]
    congr 1
    ext <;> simp

theorem separates_iff (tests : BoxTests K) (my other : Collider K) :
    Separates tests my other ↔ (Overlapping my other → my.center ≠ other.center →
      Touching (pushed tests my other) other) := by
  unfold Separates
  refine forall_congr' fun _ => forall_congr' fun _ => ⟨fun h => ?_, fun h => ?_⟩
  · have hfree := h ⟨⟨0, 0, 0⟩, some my, none⟩ ⟨⟨0, 0, 0⟩, some other, none⟩ rfl rfl rfl
    have hmoved : my.move ((onCollision tests ⟨⟨0, 0, 0⟩, some my, none⟩
        ⟨⟨0, 0, 0⟩, some other, none⟩).1.position - ⟨0, 0, 0⟩) = pushed tests my other :=
      onCollision_wall tests rfl rfl rfl
    rwa [hmoved] at hfree
  · intro self wall hself hwall hstands
    rwa [onCollision_wall tests hself hwall hstands]

theorem PushLaw.symm {tests : BoxTests K} {a b : Collider K} (h : PushLaw tests a b) :
    PushLaw tests b a := by
  refine ⟨?_, h.second, h.first⟩
  rw [h.opposite, Option.map_map]
  cases correction tests a b with
  | none => rfl
  | some push =>
    refine congrArg some ?_
    ext <;> simp

theorem pushLaw_comm (tests : BoxTests K) (a b : Collider K) :
    PushLaw tests a b ↔ PushLaw tests b a :=
  ⟨PushLaw.symm, PushLaw.symm⟩

end Space

/-! ## Lengths -/

section Lengths

theorem length_nonneg (v : Vec3 ℝ) : 0 ≤ v.length :=
  Real.sqrt_nonneg _

theorem dot_self_nonneg (v : Vec3 ℝ) : 0 ≤ v.dot v :=
  add_nonneg (add_nonneg (mul_self_nonneg _) (mul_self_nonneg _)) (mul_self_nonneg _)

theorem length_mul_self (v : Vec3 ℝ) : v.length * v.length = v.dot v :=
  Real.mul_self_sqrt (dot_self_nonneg v)

theorem length_scale (v : Vec3 ℝ) (factor : ℝ) : (v.scale factor).length = v.length * |factor| := by
  have hdot : (v.scale factor).dot (v.scale factor) = v.dot v * (factor * factor) := by
    simp only [Vec3.dot, Vec3.scale_x, Vec3.scale_y, Vec3.scale_z]
    ring
  show √((v.scale factor).dot (v.scale factor)) = √(v.dot v) * |factor|
  rw [hdot, Real.sqrt_mul (dot_self_nonneg v), Real.sqrt_mul_self_eq_abs]

theorem sub_eq_scale (v w : Vec3 ℝ) : v - w = (w - v).scale (-1) := by
  ext <;> simp

theorem add_opposite (v w : Vec3 ℝ) : v + w.scale (-1) = v - w := by
  ext <;> simp [sub_eq_add_neg]

theorem scale_comm (v : Vec3 ℝ) (first second : ℝ) :
    (v.scale first).scale second = (v.scale second).scale first := by
  ext <;> exact mul_right_comm _ _ _

theorem scale_scale (v : Vec3 ℝ) (first second : ℝ) :
    (v.scale first).scale second = v.scale (first * second) := by
  ext <;> exact mul_assoc _ _ _

theorem length_sub_comm (v w : Vec3 ℝ) : (v - w).length = (w - v).length := by
  rw [sub_eq_scale, length_scale, abs_neg, abs_one, mul_one]

end Lengths

/-- A force along the direction of a vector, if the vector is long enough to have one. -/
theorem directed_scale (v : Vec3 ℝ) (threshold force : ℝ) :
    (if threshold < v.length then v.normalize else ⟨0, 0, 0⟩ : Vec3 ℝ).scale force =
      v.scale (if threshold < v.length then force / v.length else 0) := by
  split <;> ext <;> simp [Vec3.normalize] <;> ring

/-! ## Spheres -/

section Spheres

variable (tests : BoxTests ℝ) (a b : BoundingSphere ℝ)

/-- Spheres are pushed along the line between their centres, if it has a direction. -/
theorem correction_spheres : correction tests (.sphere a) (.sphere b) =
    some ((b.center - a.center).scale (if 0.001 < (b.center - a.center).length then
      (a.radius + b.radius - (b.center - a.center).length) / (b.center - a.center).length
      else 0)) :=
  congrArg some (directed_scale _ _ _)

theorem spheres_opposite : correction tests (.sphere b) (.sphere a) =
    (correction tests (.sphere a) (.sphere b)).map fun push => push.scale (-1) := by
  rw [correction_spheres, correction_spheres, length_sub_comm a.center, add_comm b.radius,
    sub_eq_scale a.center, scale_comm]
  rfl

/-- Spheres are separated unless their centres are too close to tell a direction. -/
theorem spheres_touch (hoverlap : Overlapping (.sphere a) (.sphere b)) :
    Touching (pushed tests (.sphere a) (.sphere b)) (.sphere b) ↔
      0.001 < (b.center - a.center).length := by
  rw [pushed, correction_spheres]
  show (b.center - (a.center + ((b.center - a.center).scale _).scale (-1))).length =
    a.radius + b.radius ↔ _
  have hdistance : (b.center - a.center).length < a.radius + b.radius := hoverlap
  have hmoved : ∀ factor : ℝ, b.center - (a.center +
      ((b.center - a.center).scale factor).scale (-1)) =
        (b.center - a.center).scale (1 + factor) := by
    intro factor
    ext <;> simp <;> ring
  rw [hmoved, length_scale]
  split
  · rename_i hfar
    have hlength : 0 < (b.center - a.center).length := lt_trans (by norm_num) hfar
    refine iff_of_true ?_ hfar
    rw [one_add_div hlength.ne', add_sub_cancel, abs_of_nonneg
      (div_nonneg (hlength.le.trans hdistance.le) hlength.le), mul_div_cancel₀ _ hlength.ne']
  · rename_i hnear
    refine iff_of_false (fun hsame => hdistance.ne ?_) hnear
    simpa using hsame

theorem pushLaw_spheres : PushLaw tests (.sphere a) (.sphere b) ↔
    PushCondition tests (.sphere a) (.sphere b) := by
  constructor
  · intro h hdiffer hoverlap
    exact (spheres_touch tests a b hoverlap).mp
      ((separates_iff _ _ _).mp h.first hoverlap hdiffer)
  · intro h
    refine ⟨spheres_opposite tests a b, (separates_iff _ _ _).mpr fun hoverlap hdiffer => ?_,
      (separates_iff _ _ _).mpr fun hoverlap hdiffer => ?_⟩
    · exact (spheres_touch tests a b hoverlap).mpr (h hdiffer hoverlap)
    · have hsame : (b.center - a.center).length < a.radius + b.radius := by
        rw [length_sub_comm, add_comm]
        exact hoverlap
      have hfar := h hdiffer.symm hsame
      rw [length_sub_comm] at hfar
      exact (spheres_touch tests b a hoverlap).mpr hfar

end Spheres

end Rigidbody

end SurvivalArena
