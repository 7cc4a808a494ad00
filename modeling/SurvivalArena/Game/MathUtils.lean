import SurvivalArena.Game.NavMesh

/-!
# Boxes

Axis-aligned and oriented boxes and the tests whether two of them meet, by the intervals that
they cover on a number of axes.
-/

namespace SurvivalArena

structure AABB3D (K : Type) where
  position : Vec3 K
  size : Vec3 K
deriving DecidableEq

/-- The rows of a rotation matrix that are asked for. -/
structure Orientation (K : Type) where
  right : Vec3 K
  up : Vec3 K
  backward : Vec3 K
deriving DecidableEq

structure OBB3D (K : Type) where
  position : Vec3 K
  size : Vec3 K
  orientation : Orientation K
deriving DecidableEq

structure Interval3D (K : Type) where
  min : K
  max : K

variable {K : Type} [Field K] [LinearOrder K]

namespace AABB3D

def getMin (aabb : AABB3D K) : Vec3 K :=
  let p1 := aabb.position + aabb.size
  let p2 := aabb.position - aabb.size
  ⟨min p1.x p2.x, min p1.y p2.y, min p1.z p2.z⟩

def getMax (aabb : AABB3D K) : Vec3 K :=
  let p1 := aabb.position + aabb.size
  let p2 := aabb.position - aabb.size
  ⟨max p1.x p2.x, max p1.y p2.y, max p1.z p2.z⟩

end AABB3D

/-! ## Points -/

def pointInAABB (point : Vec3 K) (aabb : AABB3D K) : Bool :=
  let min := aabb.getMin
  let max := aabb.getMax
  if point.x < min.x ∨ point.y < min.y ∨ point.z < min.z then false
  else if max.x < point.x ∨ max.y < point.y ∨ max.z < point.z then false
  else true

def pointInOBB (point : Vec3 K) (obb : OBB3D K) : Bool :=
  let dir := point - obb.position
  [(obb.orientation.right, obb.size.x), (obb.orientation.up, obb.size.y),
    (obb.orientation.backward, obb.size.z)].all fun (axis, size) =>
      let distance := dir.dot axis
      if size < distance then false else if distance < -size then false else true

/-! ## Intervals -/

/-- The least and the greatest projection of the vertices. -/
def intervalOf (axis first : Vec3 K) (others : List (Vec3 K)) : Interval3D K :=
  others.foldl (fun result vertex =>
    let projection := axis.dot vertex
    ⟨min result.min projection, max result.max projection⟩) ⟨axis.dot first, axis.dot first⟩

def AABB3D.getInterval (aabb : AABB3D K) (axis : Vec3 K) : Interval3D K :=
  let i := aabb.getMin
  let a := aabb.getMax
  intervalOf axis ⟨i.x, a.y, a.z⟩
    [⟨i.x, a.y, i.z⟩, ⟨i.x, i.y, a.z⟩, ⟨i.x, i.y, i.z⟩, ⟨a.x, a.y, a.z⟩, ⟨a.x, a.y, i.z⟩,
      ⟨a.x, i.y, a.z⟩, ⟨a.x, i.y, i.z⟩]

def OBB3D.getInterval (obb : OBB3D K) (axis : Vec3 K) : Interval3D K :=
  let c := obb.position
  let e := obb.size
  let a0 := obb.orientation.right
  let a1 := obb.orientation.up
  let a2 := obb.orientation.backward
  intervalOf axis (c + a0.scale e.x + a1.scale e.y + a2.scale e.z)
    [c - a0.scale e.x + a1.scale e.y + a2.scale e.z,
      c + a0.scale e.x - a1.scale e.y + a2.scale e.z,
      c + a0.scale e.x + a1.scale e.y - a2.scale e.z,
      c - a0.scale e.x - a1.scale e.y - a2.scale e.z,
      c + a0.scale e.x - a1.scale e.y - a2.scale e.z,
      c - a0.scale e.x + a1.scale e.y - a2.scale e.z,
      c - a0.scale e.x - a1.scale e.y + a2.scale e.z]

/-- The intervals have a common point. -/
def Interval3D.overlaps (a b : Interval3D K) : Bool :=
  decide (b.min ≤ a.max) && decide (a.min ≤ b.max)

def AABB3D.overlapOnAxis (aabb : AABB3D K) (obb : OBB3D K) (axis : Vec3 K) : Bool :=
  (aabb.getInterval axis).overlaps (obb.getInterval axis)

def OBB3D.overlapOnAxis (obb1 obb2 : OBB3D K) (axis : Vec3 K) : Bool :=
  (obb1.getInterval axis).overlaps (obb2.getInterval axis)

/-! ## Boxes that meet -/

omit [LinearOrder K] in
/-- The fifteen axes: the six that are given, and the products that the loop makes of the first
three of them, each with each of these three. -/
def testAxes (test : Vector (Vec3 K) 6) : List (Vec3 K) :=
  test.toList ++ (List.finRange 3).flatMap fun idx : Fin 3 =>
    [(test.get (idx.castLE (by decide))).cross (test.get 0),
      (test.get (idx.castLE (by decide))).cross (test.get 1),
      (test.get (idx.castLE (by decide))).cross (test.get 2)]

def aabbobb (aabb : AABB3D K) (obb : OBB3D K) : Bool :=
  (testAxes #v[⟨1, 0, 0⟩, ⟨0, 1, 0⟩, ⟨0, 0, 1⟩, obb.orientation.right, obb.orientation.up,
    obb.orientation.backward]).all (aabb.overlapOnAxis obb)

def obbobb (obb1 obb2 : OBB3D K) : Bool :=
  (testAxes #v[obb1.orientation.right, obb1.orientation.up, obb1.orientation.backward,
    obb2.orientation.right, obb2.orientation.up, obb2.orientation.backward]).all
      (obb1.overlapOnAxis obb2)

/-! ## The intervals of boxes -/

section Corners

omit [Field K] [LinearOrder K] in
/-- A fold that keeps one of two numbers ends in one of all, which is extreme among them. -/
theorem foldl_extreme {operation : K → K → K} {P : K → K → Prop}
    (hchoice : ∀ a b, operation a b = a ∨ operation a b = b)
    (hleft : ∀ a b, P (operation a b) a) (hright : ∀ a b, P (operation a b) b)
    (hrefl : ∀ a, P a a) (htrans : ∀ a b c, P a b → P b c → P a c) (first : K) (others : List K) :
    (∀ value ∈ first :: others, P (others.foldl operation first) value) ∧
      others.foldl operation first ∈ first :: others := by
  induction others generalizing first with
  | nil => simp [hrefl]
  | cons next others ih =>
    obtain ⟨hbound, hmem⟩ := ih (operation first next)
    rw [List.forall_mem_cons] at hbound
    rw [List.foldl_cons]
    refine ⟨?_, ?_⟩
    · rw [List.forall_mem_cons, List.forall_mem_cons]
      exact ⟨htrans _ _ _ hbound.1 (hleft _ _), htrans _ _ _ hbound.1 (hright _ _), hbound.2⟩
    · rcases List.mem_cons.mp hmem with hfirst | hlater
      · rw [hfirst]
        rcases hchoice first next with hkept | hkept <;> rw [hkept] <;> simp
      · exact List.mem_cons_of_mem _ (List.mem_cons_of_mem _ hlater)

theorem foldl_interval (axis : Vec3 K) (others : List (Vec3 K)) (low high : K) :
    others.foldl (fun result vertex =>
      (⟨min result.min (axis.dot vertex), max result.max (axis.dot vertex)⟩ : Interval3D K))
        ⟨low, high⟩ =
      ⟨(others.map axis.dot).foldl min low, (others.map axis.dot).foldl max high⟩ := by
  induction others generalizing low high with
  | nil => rfl
  | cons vertex others ih => exact ih _ _

/-- A number or its opposite. -/
def signed (positive : Bool) (x : K) : K :=
  if positive then x else -x

theorem exists_signed_low (x : K) : ∃ positive, signed positive x = -|x| := by
  rcases abs_choice x with h | h
  · exact ⟨false, by rw [h]; rfl⟩
  · exact ⟨true, by rw [h, neg_neg]; rfl⟩

theorem exists_signed_high (x : K) : ∃ positive, signed positive x = |x| := by
  rcases abs_choice x with h | h
  · exact ⟨true, h.symm⟩
  · exact ⟨false, h.symm⟩

variable [IsStrictOrderedRing K]

theorem signed_bounds (positive : Bool) (x : K) :
    -|x| ≤ signed positive x ∧ signed positive x ≤ |x| := by
  cases positive
  · exact ⟨neg_le_neg (le_abs_self x), neg_le_abs x⟩
  · exact abs_le.mp le_rfl

/-- The interval of eight corners around a centre. -/
theorem intervalOf_corners (corner : Bool → Bool → Bool → Vec3 K) {axis first : Vec3 K}
    {others : List (Vec3 K)} {c x y z : K}
    (hvalue : ∀ sx sy sz, axis.dot (corner sx sy sz) =
      c + signed sx x + signed sy y + signed sz z)
    (hcorners : ∀ vertex ∈ first :: others, ∃ sx sy sz, vertex = corner sx sy sz)
    (hall : ∀ sx sy sz, corner sx sy sz ∈ first :: others) :
    intervalOf axis first others = ⟨c - (|x| + |y| + |z|), c + (|x| + |y| + |z|)⟩ := by
  have hprojections : axis.dot first :: others.map axis.dot = (first :: others).map axis.dot := rfl
  obtain ⟨hlow, hlowest⟩ := foldl_extreme (P := (· ≤ ·)) min_choice min_le_left min_le_right
    le_refl (fun _ _ _ => le_trans) (axis.dot first) (others.map axis.dot)
  obtain ⟨hhigh, hhighest⟩ := foldl_extreme (P := (· ≥ ·)) max_choice le_max_left le_max_right
    le_refl (fun _ _ _ => ge_trans) (axis.dot first) (others.map axis.dot)
  rw [hprojections] at hlow hlowest hhigh hhighest
  rw [List.forall_mem_map] at hlow hhigh
  refine (foldl_interval axis others _ _).trans ?_
  congr 1
  · apply le_antisymm
    · obtain ⟨sx, hx⟩ := exists_signed_low x
      obtain ⟨sy, hy⟩ := exists_signed_low y
      obtain ⟨sz, hz⟩ := exists_signed_low z
      refine (hlow _ (hall sx sy sz)).trans ?_
      rw [hvalue, hx, hy, hz]
      linarith
    · obtain ⟨vertex, hvertex, hsame⟩ := List.mem_map.mp hlowest
      obtain ⟨sx, sy, sz, rfl⟩ := hcorners vertex hvertex
      rw [← hsame, hvalue]
      linarith [(signed_bounds sx x).1, (signed_bounds sy y).1, (signed_bounds sz z).1]
  · apply le_antisymm
    · obtain ⟨vertex, hvertex, hsame⟩ := List.mem_map.mp hhighest
      obtain ⟨sx, sy, sz, rfl⟩ := hcorners vertex hvertex
      rw [← hsame, hvalue]
      linarith [(signed_bounds sx x).2, (signed_bounds sy y).2, (signed_bounds sz z).2]
    · obtain ⟨sx, hx⟩ := exists_signed_high x
      obtain ⟨sy, hy⟩ := exists_signed_high y
      obtain ⟨sz, hz⟩ := exists_signed_high z
      refine le_trans ?_ (hhigh _ (hall sx sy sz))
      rw [hvalue, hx, hy, hz]
      linarith

/-- How far a box reaches from its centre along an axis. -/
def OBB3D.reach (obb : OBB3D K) (axis : Vec3 K) : K :=
  |axis.dot obb.orientation.right * obb.size.x| + |axis.dot obb.orientation.up * obb.size.y| +
    |axis.dot obb.orientation.backward * obb.size.z|

/-- A corner of a box. -/
def OBB3D.corner (obb : OBB3D K) (sx sy sz : Bool) : Vec3 K :=
  let along (positive : Bool) (a b : Vec3 K) := if positive then a + b else a - b
  along sz (along sy (along sx obb.position (obb.orientation.right.scale obb.size.x))
    (obb.orientation.up.scale obb.size.y)) (obb.orientation.backward.scale obb.size.z)

omit [LinearOrder K] [IsStrictOrderedRing K] in
theorem OBB3D.dot_corner (obb : OBB3D K) (axis : Vec3 K) (sx sy sz : Bool) :
    axis.dot (obb.corner sx sy sz) = axis.dot obb.position +
      signed sx (axis.dot obb.orientation.right * obb.size.x) +
      signed sy (axis.dot obb.orientation.up * obb.size.y) +
      signed sz (axis.dot obb.orientation.backward * obb.size.z) := by
  cases sx <;> cases sy <;> cases sz <;>
    simp only [OBB3D.corner, signed, Vec3.dot, Vec3.add_x, Vec3.add_y, Vec3.add_z, Vec3.sub_x,
      Vec3.sub_y, Vec3.sub_z, Vec3.scale_x, Vec3.scale_y, Vec3.scale_z, if_true,
      Bool.false_eq_true, if_false] <;> ring

theorem OBB3D.getInterval_eq (obb : OBB3D K) (axis : Vec3 K) :
    obb.getInterval axis =
      ⟨axis.dot obb.position - obb.reach axis, axis.dot obb.position + obb.reach axis⟩ := by
  apply intervalOf_corners obb.corner (obb.dot_corner axis)
  · simp only [List.forall_mem_cons]
    exact ⟨⟨true, true, true, rfl⟩, ⟨false, true, true, rfl⟩, ⟨true, false, true, rfl⟩,
      ⟨true, true, false, rfl⟩, ⟨false, false, false, rfl⟩, ⟨true, false, false, rfl⟩,
      ⟨false, true, false, rfl⟩, ⟨false, false, true, rfl⟩, nofun⟩
  · intro sx sy sz
    cases sx <;> cases sy <;> cases sz <;> simp [OBB3D.corner]

/-- An axis-aligned box as an oriented one. -/
def AABB3D.toOBB (aabb : AABB3D K) : OBB3D K where
  position := aabb.position
  size := ⟨|aabb.size.x|, |aabb.size.y|, |aabb.size.z|⟩
  orientation := ⟨⟨1, 0, 0⟩, ⟨0, 1, 0⟩, ⟨0, 0, 1⟩⟩

theorem min_add_sub (a b : K) : min (a + b) (a - b) = a - |b| := by
  rcases abs_cases b with ⟨h, hb⟩ | ⟨h, hb⟩
  · rw [h, min_eq_right (by linarith)]
  · rw [h, min_eq_left (by linarith), sub_neg_eq_add]

theorem max_add_sub (a b : K) : max (a + b) (a - b) = a + |b| := by
  rcases abs_cases b with ⟨h, hb⟩ | ⟨h, hb⟩
  · rw [h, max_eq_left (by linarith)]
  · rw [h, max_eq_right (by linarith), sub_eq_add_neg]

theorem AABB3D.getMin_eq (aabb : AABB3D K) : aabb.getMin = aabb.toOBB.corner false false false := by
  ext <;> simp [getMin, toOBB, OBB3D.corner, min_add_sub]

theorem AABB3D.getMax_eq (aabb : AABB3D K) : aabb.getMax = aabb.toOBB.corner true true true := by
  ext <;> simp [getMax, toOBB, OBB3D.corner, max_add_sub]

/-- The corners of an axis-aligned box are those of the oriented one. -/
theorem AABB3D.corner_eq (aabb : AABB3D K) (sx sy sz : Bool) :
    (⟨if sx then aabb.getMax.x else aabb.getMin.x, if sy then aabb.getMax.y else aabb.getMin.y,
      if sz then aabb.getMax.z else aabb.getMin.z⟩ : Vec3 K) = aabb.toOBB.corner sx sy sz := by
  rw [getMin_eq, getMax_eq]
  cases sx <;> cases sy <;> cases sz <;> ext <;> simp [toOBB, OBB3D.corner]

theorem AABB3D.getInterval_toOBB (aabb : AABB3D K) (axis : Vec3 K) :
    aabb.getInterval axis = aabb.toOBB.getInterval axis := by
  rw [OBB3D.getInterval_eq]
  apply intervalOf_corners aabb.toOBB.corner (aabb.toOBB.dot_corner axis)
  · simp only [← corner_eq, List.forall_mem_cons]
    exact ⟨⟨false, true, true, rfl⟩, ⟨false, true, false, rfl⟩, ⟨false, false, true, rfl⟩,
      ⟨false, false, false, rfl⟩, ⟨true, true, true, rfl⟩, ⟨true, true, false, rfl⟩,
      ⟨true, false, true, rfl⟩, ⟨true, false, false, rfl⟩, nofun⟩
  · intro sx sy sz
    rw [← corner_eq]
    cases sx <;> cases sy <;> cases sz <;> simp

/-- Boxes overlap on an axis if their centres are no further apart than they reach. -/
theorem OBB3D.overlapOnAxis_iff (obb1 obb2 : OBB3D K) (axis : Vec3 K) :
    obb1.overlapOnAxis obb2 axis = true ↔
      |axis.dot (obb2.position - obb1.position)| ≤ obb1.reach axis + obb2.reach axis := by
  have hapart : axis.dot (obb2.position - obb1.position) =
      axis.dot obb2.position - axis.dot obb1.position := by
    simp only [Vec3.dot, Vec3.sub_x, Vec3.sub_y, Vec3.sub_z]
    ring
  rw [overlapOnAxis, Interval3D.overlaps, getInterval_eq, getInterval_eq, hapart, abs_le,
    Bool.and_eq_true, decide_eq_true_eq, decide_eq_true_eq]
  constructor
  · rintro ⟨hbefore, hafter⟩
    constructor <;> linarith
  · rintro ⟨hlow, hhigh⟩
    constructor <;> linarith

theorem AABB3D.overlapOnAxis_toOBB (aabb : AABB3D K) (obb : OBB3D K) (axis : Vec3 K) :
    aabb.overlapOnAxis obb axis = aabb.toOBB.overlapOnAxis obb axis := by
  rw [overlapOnAxis, getInterval_toOBB]
  rfl

/-- An axis-aligned box is tested as the oriented box that it is. -/
theorem aabbobb_toOBB (aabb : AABB3D K) (obb : OBB3D K) :
    aabbobb aabb obb = obbobb aabb.toOBB obb := by
  unfold aabbobb obbobb
  congr 1
  exact funext (aabb.overlapOnAxis_toOBB obb)

end Corners

/-! ## Coordinates

The vectors of the game as functions on three coordinates.
-/

open Matrix

variable {K : Type} [Field K]

def Vec3.coords (v : Vec3 K) : Fin 3 → K :=
  ![v.x, v.y, v.z]

omit [Field K] in
theorem Vec3.coords_inj {v w : Vec3 K} : v.coords = w.coords ↔ v = w := by
  refine ⟨fun h => ?_, congrArg coords⟩
  ext
  · exact congrFun h 0
  · exact congrFun h 1
  · exact congrFun h 2

omit [Field K] in
theorem Vec3.exists_coords (v : Fin 3 → K) : ∃ w : Vec3 K, w.coords = v := by
  refine ⟨⟨v 0, v 1, v 2⟩, ?_⟩
  ext i
  fin_cases i <;> rfl

theorem Vec3.coords_add (v w : Vec3 K) : (v + w).coords = v.coords + w.coords := by
  ext i
  fin_cases i <;> rfl

theorem Vec3.coords_sub (v w : Vec3 K) : (v - w).coords = v.coords - w.coords := by
  ext i
  fin_cases i <;> rfl

theorem Vec3.coords_scale (v : Vec3 K) (factor : K) :
    (v.scale factor).coords = factor • v.coords := by
  ext i
  fin_cases i <;> exact mul_comm _ _

theorem Vec3.coords_cross (v w : Vec3 K) : (v.cross w).coords = v.coords ⨯₃ w.coords := by
  rw [cross_apply]
  rfl

theorem Vec3.dot_coords (v w : Vec3 K) : v.dot w = v.coords ⬝ᵥ w.coords := by
  rw [vec3_dotProduct]
  rfl

end SurvivalArena
