import SurvivalArena.Exception
import SurvivalArena.Framework.Extended
import SurvivalArena.Framework.OrthonormalAxes

/-!
# What the camera sees

The six planes around what a camera sees and the test of a sphere against them.
-/

namespace SurvivalArena

/-- The standard library's constant and tangent for angles. -/
class Tangent (R : Type) where
  pi : R
  tan : R → R

instance : Tangent Float32 where
  pi := 3.14159265358979323846
  tan := Float32.tan

structure SceneVector3 (R : Type) where
  x : R
  y : R
  z : R

structure StressCamera (R : Type) where
  eye : SceneVector3 R
  target : SceneVector3 R

structure BoundingSphere (R : Type) where
  center : SceneVector3 R
  radius : R

structure FrustumPlane (R : Type) where
  normal : SceneVector3 R
  distance : R

structure PerspectiveFrustum (R : Type) where
  planes : Vector (FrustumPlane R) 6

variable {R : Type} [Scalar R]

namespace SceneVector3

def add (left right : SceneVector3 R) : SceneVector3 R :=
  ⟨left.x + right.x, left.y + right.y, left.z + right.z⟩

def subtract (left right : SceneVector3 R) : SceneVector3 R :=
  ⟨left.x - right.x, left.y - right.y, left.z - right.z⟩

def scale (value : SceneVector3 R) (scale : R) : SceneVector3 R :=
  ⟨value.x * scale, value.y * scale, value.z * scale⟩

def dot (left right : SceneVector3 R) : R :=
  left.x * right.x + left.y * right.y + left.z * right.z

def cross (left right : SceneVector3 R) : SceneVector3 R :=
  ⟨left.y * right.z - left.z * right.y, left.z * right.x - left.x * right.z,
    left.x * right.y - left.y * right.x⟩

def normalize (value : SceneVector3 R) : Except Exception (SceneVector3 R) :=
  let lengthSquared := value.dot value
  if ¬Scalar.isFinite lengthSquared ∨ lengthSquared ≤ 0.000001 then
    .error (.invalidArgument "frustum camera basis is degenerate")
  else .ok (value.scale (1.0 / Scalar.sqrt lengthSquared))

end SceneVector3

def planeThroughPoint (normal point : SceneVector3 R) : FrustumPlane R :=
  ⟨normal, -(normal.dot point)⟩

namespace PerspectiveFrustum

def intersectsSphere (frustum : PerspectiveFrustum R) (sphere : BoundingSphere R) : Bool :=
  if ¬Scalar.isFinite sphere.center.x ∨ ¬Scalar.isFinite sphere.center.y ∨
      ¬Scalar.isFinite sphere.center.z ∨ ¬Scalar.isFinite sphere.radius ∨
      sphere.radius < 0 then
    false
  else frustum.planes.toList.all fun plane =>
    !decide (plane.normal.dot sphere.center + plane.distance < -sphere.radius)

end PerspectiveFrustum

def worldUp : SceneVector3 R := ⟨0, 1.0, 0⟩

def buildPerspectiveFrustum [Tangent R] (camera : StressCamera R)
    (verticalFovRadians aspectRatio nearPlane farPlane : R) :
    Except Exception (PerspectiveFrustum R) := do
  throwIf (!Scalar.isFinite verticalFovRadians || decide (verticalFovRadians ≤ 0) ||
      decide (Tangent.pi ≤ verticalFovRadians) || !Scalar.isFinite aspectRatio ||
      decide (aspectRatio ≤ 0) || !Scalar.isFinite nearPlane || decide (nearPlane ≤ 0) ||
      !Scalar.isFinite farPlane || decide (farPlane ≤ nearPlane))
    (.invalidArgument "invalid perspective frustum projection")
  let forward ← (camera.target.subtract camera.eye).normalize
  let right ← (worldUp.cross forward).normalize
  let up := forward.cross right
  let tangentY := Tangent.tan (verticalFovRadians * 0.5)
  let tangentX := tangentY * aspectRatio
  let nearPoint := camera.eye.add (forward.scale nearPlane)
  let farPoint := camera.eye.add (forward.scale farPlane)
  let nearNormal := forward
  let farNormal := forward.scale (-1.0)
  let leftNormal ← ((forward.scale tangentX).add right).normalize
  let rightNormal ← ((forward.scale tangentX).subtract right).normalize
  let bottomNormal ← ((forward.scale tangentY).add up).normalize
  let topNormal ← ((forward.scale tangentY).subtract up).normalize
  return ⟨#v[planeThroughPoint nearNormal nearPoint, planeThroughPoint farNormal farPoint,
    planeThroughPoint leftNormal camera.eye, planeThroughPoint rightNormal camera.eye,
    planeThroughPoint bottomNormal camera.eye, planeThroughPoint topNormal camera.eye]⟩

/-! ## The view frustum

The planes bound the view frustum: a point is in it if it is on the inner side of all six.  A
sphere that reaches into the frustum is on no plane's outer side, since the normals have length
one.
-/

open Matrix

noncomputable instance : Tangent ℝ where
  pi := Real.pi
  tan := Real.tan

/-! ## Vectors of length one -/

section Unit

variable {ι : Type} [Fintype ι]

/-- The vector of length one in the direction of another. -/
noncomputable def unit (v : ι → ℝ) : ι → ℝ :=
  (1 / √(v ⬝ᵥ v)) • v

theorem unit_dotProduct_self {v : ι → ℝ} (hv : 0 < v ⬝ᵥ v) : unit v ⬝ᵥ unit v = 1 := by
  rw [unit, smul_dotProduct, dotProduct_smul, smul_eq_mul, smul_eq_mul, ← mul_assoc,
    div_mul_div_comm, one_mul, Real.mul_self_sqrt hv.le, one_div_mul_cancel hv.ne']

/-- A vector of length one does not vanish beside what is perpendicular to it. -/
theorem one_le_sides {v w : ι → ℝ} (hw : w ⬝ᵥ w = 1) (hperpendicular : v ⬝ᵥ w = 0) :
    1 ≤ (v + w) ⬝ᵥ (v + w) ∧ 1 ≤ (v - w) ⬝ᵥ (v - w) := by
  have hv : 0 ≤ v ⬝ᵥ v := Finset.sum_nonneg fun i _ => mul_self_nonneg (v i)
  rw [add_dotProduct, sub_dotProduct, dotProduct_add, dotProduct_add, dotProduct_sub,
    dotProduct_sub, dotProduct_comm w v, hperpendicular, hw]
  constructor <;> linarith

/-- A vector of a given length reaches no further along any direction. -/
theorem neg_le_dotProduct {normal v : ι → ℝ} {bound : ℝ} (hnormal : normal ⬝ᵥ normal = 1)
    (hv : √(v ⬝ᵥ v) ≤ bound) : -bound ≤ normal ⬝ᵥ v := by
  have hsquare : (normal ⬝ᵥ v) ^ 2 ≤ v ⬝ᵥ v := by
    calc (normal ⬝ᵥ v) ^ 2
        ≤ (∑ i, normal i ^ 2) * ∑ i, v i ^ 2 := Finset.sum_mul_sq_le_sq_mul_sq _ _ _
      _ = (normal ⬝ᵥ normal) * (v ⬝ᵥ v) := by simp only [dotProduct, sq]
      _ = v ⬝ᵥ v := by rw [hnormal, one_mul]
  exact (abs_le.mp ((Real.abs_le_sqrt hsquare).trans hv)).1

end Unit

/-! ## Exact vectors -/

namespace SceneVector3

def coords (v : SceneVector3 ℝ) : Fin 3 → ℝ :=
  ![v.x, v.y, v.z]

theorem coords_add (v w : SceneVector3 ℝ) :
    (@add ℝ .exact v w).coords = v.coords + w.coords := by
  ext i
  fin_cases i <;> rfl

theorem coords_subtract (v w : SceneVector3 ℝ) :
    (@subtract ℝ .exact v w).coords = v.coords - w.coords := by
  ext i
  fin_cases i <;> rfl

theorem coords_scale (v : SceneVector3 ℝ) (factor : ℝ) :
    (@scale ℝ .exact v factor).coords = factor • v.coords := by
  ext i
  fin_cases i <;> exact mul_comm _ _

theorem coords_cross (v w : SceneVector3 ℝ) :
    (@cross ℝ .exact v w).coords = v.coords ⨯₃ w.coords := by
  rw [cross_apply]
  rfl

theorem dot_coords (v w : SceneVector3 ℝ) : @dot ℝ .exact v w = v.coords ⬝ᵥ w.coords := by
  rw [vec3_dotProduct]
  rfl

/-- A vector that is long enough is normalized to length one. -/
theorem normalize_eq_ok {value result : SceneVector3 ℝ} :
    @normalize ℝ .exact value = .ok result ↔
      0.000001 < value.coords ⬝ᵥ value.coords ∧ result.coords = unit value.coords := by
  have hcoords : ∀ {v w : SceneVector3 ℝ}, v.coords = w.coords → v = w := by
    intro v w h
    cases v
    cases w
    congr 1
    · exact congrFun h 0
    · exact congrFun h 1
    · exact congrFun h 2
  have hscaled : (@scale ℝ .exact value (1.0 / √(value.coords ⬝ᵥ value.coords))).coords =
      unit value.coords := by
    rw [coords_scale, unit]
    norm_num
  have hcode : @normalize ℝ .exact value =
      if value.coords ⬝ᵥ value.coords ≤ 0.000001 then
        .error (.invalidArgument "frustum camera basis is degenerate")
      else .ok (@scale ℝ .exact value (1.0 / √(value.coords ⬝ᵥ value.coords))) := by
    unfold normalize
    simp only [dot_coords, Scalar.exact_isFinite, not_true_eq_false, false_or]
    rfl
  rw [hcode]
  split_ifs with hshort
  · exact iff_of_false nofun fun h => hshort.not_gt h.1
  · rw [Except.ok.injEq]
    constructor
    · rintro rfl
      exact ⟨not_le.mp hshort, hscaled⟩
    · rintro ⟨-, hresult⟩
      exact hcoords (hscaled.trans hresult.symm)

theorem exists_normalize {value : SceneVector3 ℝ}
    (hlong : 0.000001 < value.coords ⬝ᵥ value.coords) :
    ∃ result, @normalize ℝ .exact value = .ok result := by
  refine ⟨⟨unit value.coords 0, unit value.coords 1, unit value.coords 2⟩,
    normalize_eq_ok.mpr ⟨hlong, ?_⟩⟩
  ext i
  fin_cases i <;> rfl

end SceneVector3

/-! ## The frustum -/

namespace PerspectiveFrustum

/-- How far inside a plane a point is. -/
noncomputable def inside (plane : FrustumPlane ℝ) (point : SceneVector3 ℝ) : ℝ :=
  plane.normal.coords ⬝ᵥ point.coords + plane.distance

theorem inside_planeThroughPoint (normal origin point : SceneVector3 ℝ) :
    inside (@planeThroughPoint ℝ .exact normal origin) point =
      normal.coords ⬝ᵥ (point.coords - origin.coords) := by
  have hdistance : (@planeThroughPoint ℝ .exact normal origin).distance =
      -(normal.coords ⬝ᵥ origin.coords) := by
    rw [← SceneVector3.dot_coords]
    rfl
  rw [inside, hdistance, dotProduct_sub, sub_eq_add_neg]
  rfl

/-- The test of a sphere, which asks how far inside its centre is. -/
theorem intersectsSphere_iff (frustum : PerspectiveFrustum ℝ) (sphere : BoundingSphere ℝ) :
    @intersectsSphere ℝ .exact frustum sphere = true ↔ 0 ≤ sphere.radius ∧
      ∀ plane ∈ frustum.planes.toList, -sphere.radius ≤ inside plane sphere.center := by
  have hcode : @intersectsSphere ℝ .exact frustum sphere =
      if sphere.radius < 0 then false
      else frustum.planes.toList.all fun plane =>
        !decide (inside plane sphere.center < -sphere.radius) := by
    unfold intersectsSphere
    simp only [SceneVector3.dot_coords, Scalar.exact_isFinite, not_true_eq_false, false_or]
    rfl
  rw [hcode]
  split_ifs with hnegative
  · exact iff_of_false nofun fun h => hnegative.not_ge h.1
  · simp only [List.all_eq_true, Bool.not_eq_true', decide_eq_false_iff_not, not_lt]
    exact (and_iff_right (not_lt.mp hnegative)).symm

/-- Where the camera looks. -/
noncomputable def forward (camera : StressCamera ℝ) : Fin 3 → ℝ :=
  unit (camera.target.coords - camera.eye.coords)

noncomputable def right (camera : StressCamera ℝ) : Fin 3 → ℝ :=
  unit (![0, 1, 0] ⨯₃ forward camera)

noncomputable def up (camera : StressCamera ℝ) : Fin 3 → ℝ :=
  forward camera ⨯₃ right camera

/-- The points that lie as deep as the near plane, the far plane or between them, and as far to the
sides as the angle of view allows there. -/
def viewFrustum (camera : StressCamera ℝ) (fov aspect near far : ℝ) : Set (SceneVector3 ℝ) :=
  {point | ∃ d x y : ℝ, near ≤ d ∧ d ≤ far ∧ |x| ≤ d * (Real.tan (fov / 2) * aspect) ∧
    |y| ≤ d * Real.tan (fov / 2) ∧
    point.coords = camera.eye.coords + d • forward camera + x • right camera + y • up camera}

/-- A camera that looks neither at its own place nor straight up or down, with a projection that is
not refused. -/
structure Accepted (camera : StressCamera ℝ) (fov aspect near far : ℝ) : Prop where
  fov_pos : 0 < fov
  fov_lt : fov < Real.pi
  aspect_pos : 0 < aspect
  near_pos : 0 < near
  near_lt : near < far
  apart : 0.000001 < (camera.target.coords - camera.eye.coords) ⬝ᵥ
    (camera.target.coords - camera.eye.coords)
  level : 0.000001 < (![0, 1, 0] ⨯₃ forward camera) ⬝ᵥ (![0, 1, 0] ⨯₃ forward camera)

namespace Accepted

variable {camera : StressCamera ℝ} {fov aspect near far : ℝ}

theorem axes (h : Accepted camera fov aspect near far) :
    OrthonormalAxes ![forward camera, right camera, up camera] := by
  refine OrthonormalAxes.of_cross (unit_dotProduct_self (lt_trans (by norm_num) h.apart))
    (unit_dotProduct_self (lt_trans (by norm_num) h.level)) ?_
  rw [right, unit, dotProduct_smul, dot_cross_self, smul_zero]

/-- The parts of a point's distance from the eye tell whether it is in the frustum. -/
theorem mem_viewFrustum_iff (h : Accepted camera fov aspect near far) (point : SceneVector3 ℝ) :
    point ∈ viewFrustum camera fov aspect near far ↔
      near ≤ forward camera ⬝ᵥ (point.coords - camera.eye.coords) ∧
      forward camera ⬝ᵥ (point.coords - camera.eye.coords) ≤ far ∧
      |right camera ⬝ᵥ (point.coords - camera.eye.coords)| ≤
        forward camera ⬝ᵥ (point.coords - camera.eye.coords) * (Real.tan (fov / 2) * aspect) ∧
      |up camera ⬝ᵥ (point.coords - camera.eye.coords)| ≤
        forward camera ⬝ᵥ (point.coords - camera.eye.coords) * Real.tan (fov / 2) := by
  constructor
  · rintro ⟨d, x, y, hnear, hfar, hx, hy, hpoint⟩
    have hsum : point.coords - camera.eye.coords =
        ∑ i, (![d, x, y] : Fin 3 → ℝ) i • ![forward camera, right camera, up camera] i := by
      rw [hpoint, Fin.sum_univ_three]
      simp only [Matrix.cons_val]
      abel
    have hparts := h.axes.part_sum ![d, x, y]
    rw [← hsum] at hparts
    have hd : forward camera ⬝ᵥ (point.coords - camera.eye.coords) = d :=
      (dotProduct_comm _ _).trans (hparts 0)
    have hx' : right camera ⬝ᵥ (point.coords - camera.eye.coords) = x :=
      (dotProduct_comm _ _).trans (hparts 1)
    have hy' : up camera ⬝ᵥ (point.coords - camera.eye.coords) = y :=
      (dotProduct_comm _ _).trans (hparts 2)
    rw [hd, hx', hy']
    exact ⟨hnear, hfar, hx, hy⟩
  · rintro ⟨hnear, hfar, hx, hy⟩
    refine ⟨_, _, _, hnear, hfar, hx, hy, ?_⟩
    have hexpand := h.axes.expand (point.coords - camera.eye.coords)
    rw [Fin.sum_univ_three] at hexpand
    simp only [Matrix.cons_val, dotProduct_comm (point.coords - camera.eye.coords)] at hexpand
    rw [add_assoc, add_assoc, ← add_assoc (_ • forward camera), hexpand, add_sub_cancel]

end Accepted

/-! ## The planes -/

/-- The planes face inwards, with normals of length one, and enclose the frustum. -/
structure Encloses (frustum : PerspectiveFrustum ℝ) (view : Set (SceneVector3 ℝ)) : Prop where
  normal : ∀ plane ∈ frustum.planes.toList, plane.normal.coords ⬝ᵥ plane.normal.coords = 1
  inside : ∀ point, point ∈ view ↔ ∀ plane ∈ frustum.planes.toList, 0 ≤ inside plane point

/-- A side plane, through the eye, before its normal is normalized. -/
theorem inside_side {value normal : SceneVector3 ℝ}
    (hnormal : @SceneVector3.normalize ℝ .exact value = .ok normal) (eye point : SceneVector3 ℝ) :
    0 ≤ inside (@planeThroughPoint ℝ .exact normal eye) point ↔
      0 ≤ value.coords ⬝ᵥ (point.coords - eye.coords) := by
  obtain ⟨hlong, hcoords⟩ := SceneVector3.normalize_eq_ok.mp hnormal
  have hlength : 0 < √(value.coords ⬝ᵥ value.coords) :=
    Real.sqrt_pos.mpr (lt_trans (by norm_num) hlong)
  rw [inside_planeThroughPoint, hcoords, unit, smul_dotProduct, smul_eq_mul]
  exact mul_nonneg_iff_of_pos_left (one_div_pos.mpr hlength)

theorem normal_side {value normal : SceneVector3 ℝ}
    (hnormal : @SceneVector3.normalize ℝ .exact value = .ok normal) :
    normal.coords ⬝ᵥ normal.coords = 1 := by
  obtain ⟨hlong, hcoords⟩ := SceneVector3.normalize_eq_ok.mp hnormal
  rw [hcoords]
  exact unit_dotProduct_self (lt_trans (by norm_num) hlong)

theorem abs_le_iff_sides (a bound : ℝ) : |a| ≤ bound ↔ 0 ≤ bound + a ∧ 0 ≤ bound - a := by
  rw [abs_le, sub_nonneg, neg_le_iff_add_nonneg, add_comm a]

/-- A plane across the line of sight, at some depth. -/
theorem inside_depth {normal f origin eye : SceneVector3 ℝ} {sign depth : ℝ}
    (hf : f.coords ⬝ᵥ f.coords = 1) (hnormal : normal.coords = sign • f.coords)
    (horigin : origin.coords = eye.coords + depth • f.coords) (point : SceneVector3 ℝ) :
    inside (@planeThroughPoint ℝ .exact normal origin) point =
      sign * (f.coords ⬝ᵥ (point.coords - eye.coords) - depth) := by
  rw [inside_planeThroughPoint, hnormal, horigin, ← sub_sub, smul_dotProduct, dotProduct_sub,
    dotProduct_smul, hf]
  simp only [smul_eq_mul, mul_one]

theorem forward_eq_ok {camera : StressCamera ℝ} {f : SceneVector3 ℝ} :
    @SceneVector3.normalize ℝ .exact (@SceneVector3.subtract ℝ .exact camera.target camera.eye) =
        .ok f ↔
      0.000001 < (camera.target.coords - camera.eye.coords) ⬝ᵥ
        (camera.target.coords - camera.eye.coords) ∧ f.coords = forward camera := by
  rw [SceneVector3.normalize_eq_ok, SceneVector3.coords_subtract]
  rfl

theorem coords_cross_worldUp (f : SceneVector3 ℝ) :
    (@SceneVector3.cross ℝ .exact (@worldUp ℝ .exact) f).coords = ![0, 1, 0] ⨯₃ f.coords := by
  have hup : (@worldUp ℝ .exact).coords = ![0, 1, 0] := by
    show ![(0 : ℝ), 1.0, 0] = _
    norm_num
  rw [SceneVector3.coords_cross, hup]

theorem right_eq_ok {camera : StressCamera ℝ} {f r : SceneVector3 ℝ}
    (hf : f.coords = forward camera) :
    @SceneVector3.normalize ℝ .exact (@SceneVector3.cross ℝ .exact (@worldUp ℝ .exact) f) =
        .ok r ↔
      0.000001 < (![0, 1, 0] ⨯₃ forward camera) ⬝ᵥ (![0, 1, 0] ⨯₃ forward camera) ∧
        r.coords = right camera := by
  rw [SceneVector3.normalize_eq_ok, coords_cross_worldUp, hf]
  rfl

/-- The tangent of half the angle, as it is computed. -/
theorem tan_half (fov : ℝ) :
    (Tangent.tan (@HMul.hMul ℝ ℝ ℝ (@instHMul ℝ Scalar.exact.toMul) fov 0.5) : ℝ) =
      Real.tan (fov / 2) := by
  show Real.tan (fov * 0.5) = _
  norm_num [div_eq_mul_inv]

/-- The six planes enclose the frustum. -/
theorem Accepted.encloses {camera : StressCamera ℝ} {fov aspect near far : ℝ}
    (h : Accepted camera fov aspect near far) {f r left right' bottom top : SceneVector3 ℝ}
    (hf : f.coords = forward camera) (hr : r.coords = right camera)
    (hleft : @SceneVector3.normalize ℝ .exact (@SceneVector3.add ℝ .exact
      (@SceneVector3.scale ℝ .exact f (Real.tan (fov / 2) * aspect)) r) = .ok left)
    (hright : @SceneVector3.normalize ℝ .exact (@SceneVector3.subtract ℝ .exact
      (@SceneVector3.scale ℝ .exact f (Real.tan (fov / 2) * aspect)) r) = .ok right')
    (hbottom : @SceneVector3.normalize ℝ .exact (@SceneVector3.add ℝ .exact
      (@SceneVector3.scale ℝ .exact f (Real.tan (fov / 2))) (@SceneVector3.cross ℝ .exact f r)) =
        .ok bottom)
    (htop : @SceneVector3.normalize ℝ .exact (@SceneVector3.subtract ℝ .exact
      (@SceneVector3.scale ℝ .exact f (Real.tan (fov / 2))) (@SceneVector3.cross ℝ .exact f r)) =
        .ok top) :
    Encloses ⟨#v[@planeThroughPoint ℝ .exact f
        (@SceneVector3.add ℝ .exact camera.eye (@SceneVector3.scale ℝ .exact f near)),
      @planeThroughPoint ℝ .exact (@SceneVector3.scale ℝ .exact f (-1.0))
        (@SceneVector3.add ℝ .exact camera.eye (@SceneVector3.scale ℝ .exact f far)),
      @planeThroughPoint ℝ .exact left camera.eye, @planeThroughPoint ℝ .exact right' camera.eye,
      @planeThroughPoint ℝ .exact bottom camera.eye, @planeThroughPoint ℝ .exact top camera.eye]⟩
      (viewFrustum camera fov aspect near far) := by
  have hunit : f.coords ⬝ᵥ f.coords = 1 := by
    rw [hf]
    exact h.axes 0 0
  have hopposite : (@SceneVector3.scale ℝ .exact f (-1.0)).coords = (-1 : ℝ) • f.coords := by
    rw [SceneVector3.coords_scale]
    norm_num
  have horigin : ∀ depth, (@SceneVector3.add ℝ .exact camera.eye
      (@SceneVector3.scale ℝ .exact f depth)).coords = camera.eye.coords + depth • f.coords := by
    intro depth
    rw [SceneVector3.coords_add, SceneVector3.coords_scale]
  constructor
  · simp only [Vector.toList_mk, List.forall_mem_cons]
    refine ⟨hunit, ?_, normal_side hleft, normal_side hright, normal_side hbottom,
      normal_side htop, nofun⟩
    show (@SceneVector3.scale ℝ .exact f (-1.0)).coords ⬝ᵥ
      (@SceneVector3.scale ℝ .exact f (-1.0)).coords = 1
    rw [hopposite, smul_dotProduct, dotProduct_smul, hunit]
    norm_num
  · intro point
    rw [h.mem_viewFrustum_iff]
    simp only [Vector.toList_mk, List.forall_mem_cons, inside_side hleft, inside_side hright,
      inside_side hbottom, inside_side htop, SceneVector3.coords_add, SceneVector3.coords_subtract,
      SceneVector3.coords_scale, SceneVector3.coords_cross, add_dotProduct, sub_dotProduct,
      smul_dotProduct, smul_eq_mul]
    rw [inside_depth hunit (one_smul ℝ _).symm (horigin near),
      inside_depth hunit hopposite (horigin far), hf, hr, abs_le_iff_sides, abs_le_iff_sides, up]
    constructor
    · rintro ⟨hnear, hfar, ⟨hleft, hright⟩, hbottom, htop⟩
      refine ⟨by linarith, by linarith, by linarith, by linarith, by linarith, by linarith, nofun⟩
    · rintro ⟨hnear, hfar, hleft, hright, hbottom, htop, -⟩
      exact ⟨by linarith, by linarith, ⟨by linarith, by linarith⟩, by linarith, by linarith⟩

/-- What is built encloses the frustum of an accepted camera. -/
theorem buildPerspectiveFrustum_spec {camera : StressCamera ℝ} {fov aspect near far : ℝ}
    {frustum : PerspectiveFrustum ℝ}
    (h : @buildPerspectiveFrustum ℝ .exact _ camera fov aspect near far = .ok frustum) :
    Accepted camera fov aspect near far ∧
      frustum.Encloses (viewFrustum camera fov aspect near far) := by
  unfold buildPerspectiveFrustum at h
  rw [throwIf_bind_eq_ok] at h
  obtain ⟨hvalid, h⟩ := h
  simp only [except_bind_eq_ok] at h
  obtain ⟨f, hf, r, hr, leftNormal, hleft, rightNormal, hright, bottomNormal, hbottom,
    topNormal, htop, hfrustum⟩ := h
  simp only [Bool.or_eq_false_iff, decide_eq_false_iff_not, not_le] at hvalid
  obtain ⟨⟨⟨⟨⟨⟨⟨⟨-, hfov⟩, hpi⟩, -⟩, haspect⟩, -⟩, hnear⟩, -⟩, hfar⟩ := hvalid
  obtain ⟨hapart, hforward⟩ := forward_eq_ok.mp hf
  obtain ⟨hlevel, hside⟩ := (right_eq_ok hforward).mp hr
  have haccepted : Accepted camera fov aspect near far :=
    ⟨hfov, hpi, haspect, hnear, hfar, hapart, hlevel⟩
  rw [tan_half] at hleft hright hbottom htop
  rw [← Except.ok.inj hfrustum]
  exact ⟨haccepted, haccepted.encloses hforward hside hleft hright hbottom htop⟩

/-- An accepted camera gets its frustum. -/
theorem Accepted.exists_frustum {camera : StressCamera ℝ} {fov aspect near far : ℝ}
    (h : Accepted camera fov aspect near far) :
    ∃ frustum, @buildPerspectiveFrustum ℝ .exact _ camera fov aspect near far = .ok frustum := by
  obtain ⟨f, hf⟩ : ∃ f, @SceneVector3.normalize ℝ .exact
      (@SceneVector3.subtract ℝ .exact camera.target camera.eye) = .ok f :=
    SceneVector3.exists_normalize (by rw [SceneVector3.coords_subtract]; exact h.apart)
  have hforward := (forward_eq_ok.mp hf).2
  obtain ⟨r, hr⟩ : ∃ r, @SceneVector3.normalize ℝ .exact
      (@SceneVector3.cross ℝ .exact (@worldUp ℝ .exact) f) = .ok r :=
    SceneVector3.exists_normalize (by rw [coords_cross_worldUp, hforward]; exact h.level)
  have hright := ((right_eq_ok hforward).mp hr).2
  have hside : ∀ (tangent : ℝ) (side : SceneVector3 ℝ), side.coords ⬝ᵥ side.coords = 1 →
      f.coords ⬝ᵥ side.coords = 0 →
      (∃ result, @SceneVector3.normalize ℝ .exact (@SceneVector3.add ℝ .exact
        (@SceneVector3.scale ℝ .exact f tangent) side) = .ok result) ∧
      ∃ result, @SceneVector3.normalize ℝ .exact (@SceneVector3.subtract ℝ .exact
        (@SceneVector3.scale ℝ .exact f tangent) side) = .ok result := by
    intro tangent side hlength hperpendicular
    have hlong := one_le_sides (v := tangent • f.coords) hlength
      (by rw [smul_dotProduct, hperpendicular, smul_zero])
    constructor <;> apply SceneVector3.exists_normalize
    · rw [SceneVector3.coords_add, SceneVector3.coords_scale]
      exact lt_of_lt_of_le (by norm_num) hlong.1
    · rw [SceneVector3.coords_subtract, SceneVector3.coords_scale]
      exact lt_of_lt_of_le (by norm_num) hlong.2
  have hacross : (@SceneVector3.cross ℝ .exact f r).coords = up camera := by
    rw [SceneVector3.coords_cross, hforward, hright, up]
  obtain ⟨⟨left, hleft⟩, right', hright'⟩ := hside (Real.tan (fov / 2) * aspect) r
    (by rw [hright]; exact h.axes 1 1) (by rw [hforward, hright]; exact h.axes 0 1)
  obtain ⟨⟨bottom, hbottom⟩, top, htop⟩ := hside (Real.tan (fov / 2))
    (@SceneVector3.cross ℝ .exact f r) (by rw [hacross]; exact h.axes 2 2)
    (by rw [hacross, hforward]; exact h.axes 0 2)
  apply Exists.intro
  unfold buildPerspectiveFrustum
  rw [throwIf_bind_eq_ok]
  simp only [except_bind_eq_ok, tan_half]
  refine ⟨?_, f, hf, r, hr, left, hleft, right', hright', bottom, hbottom, top, htop, rfl⟩
  simp only [Bool.or_eq_false_iff, decide_eq_false_iff_not, not_le]
  exact ⟨⟨⟨⟨⟨⟨⟨⟨rfl, h.fov_pos⟩, h.fov_lt⟩, rfl⟩, h.aspect_pos⟩, rfl⟩, h.near_pos⟩, rfl⟩,
    h.near_lt⟩

/-- A sphere that reaches into the view frustum is kept, and a point is kept only there. -/
theorem intersectsSphere_viewFrustum {camera : StressCamera ℝ} {fov aspect near far : ℝ}
    {frustum : PerspectiveFrustum ℝ}
    (h : @buildPerspectiveFrustum ℝ .exact _ camera fov aspect near far = .ok frustum)
    (sphere : BoundingSphere ℝ) :
    ((∃ point ∈ viewFrustum camera fov aspect near far,
      √((sphere.center.coords - point.coords) ⬝ᵥ (sphere.center.coords - point.coords)) ≤
        sphere.radius) → @intersectsSphere ℝ .exact frustum sphere = true) ∧
    (sphere.radius = 0 → (@intersectsSphere ℝ .exact frustum sphere = true ↔
      sphere.center ∈ viewFrustum camera fov aspect near far)) := by
  have hencloses := (buildPerspectiveFrustum_spec h).2
  rw [intersectsSphere_iff]
  constructor
  · rintro ⟨point, hpoint, hnear⟩
    refine ⟨(Real.sqrt_nonneg _).trans hnear, fun plane hplane => ?_⟩
    have hinside := (hencloses.inside point).mp hpoint plane hplane
    have hreach := neg_le_dotProduct (hencloses.normal plane hplane) hnear
    rw [dotProduct_sub] at hreach
    unfold inside at hinside ⊢
    linarith
  · intro hradius
    rw [hradius, neg_zero, and_iff_right le_rfl]
    exact (hencloses.inside sphere.center).symm

/-! ## A camera that looks ahead -/

/-- A camera in the origin that looks along the depth axis. -/
def ahead : StressCamera ℝ where
  eye := ⟨0, 0, 0⟩
  target := ⟨0, 0, 1⟩

theorem unit_of_unit {ι : Type} [Fintype ι] {v : ι → ℝ} (hv : v ⬝ᵥ v = 1) : unit v = v := by
  rw [unit, hv, Real.sqrt_one, one_div_one, one_smul]

theorem forward_ahead : forward ahead = ![0, 0, 1] := by
  have hdirection : ahead.target.coords - ahead.eye.coords = ![0, 0, 1] := by
    ext i
    fin_cases i <;> norm_num [SceneVector3.coords, ahead]
  rw [forward, hdirection]
  exact unit_of_unit (by simp)

theorem right_ahead : right ahead = ![1, 0, 0] := by
  have hcross : (![0, 1, 0] : Fin 3 → ℝ) ⨯₃ ![0, 0, 1] = ![1, 0, 0] := by
    rw [cross_apply]
    simp
  rw [right, forward_ahead, hcross]
  exact unit_of_unit (by norm_num [vec3_dotProduct])

theorem accepted_ahead : Accepted ahead (Real.pi / 2) 1 1 10 where
  fov_pos := by positivity
  fov_lt := half_lt_self Real.pi_pos
  aspect_pos := one_pos
  near_pos := one_pos
  near_lt := by norm_num
  apart := by
    rw [vec3_dotProduct]
    simp only [SceneVector3.coords, ahead, Pi.sub_apply, Matrix.cons_val]
    norm_num
  level := by
    rw [forward_ahead, cross_apply]
    simp only [Matrix.cons_val, vec3_dotProduct]
    norm_num

/-- A sphere beyond the side that reaches into the frustum, and a point within. -/
theorem intersectsSphere_viewFrustum_ahead :
    ∃ frustum, @buildPerspectiveFrustum ℝ .exact _ ahead (Real.pi / 2) 1 1 10 = .ok frustum ∧
      @intersectsSphere ℝ .exact frustum ⟨⟨5.4, 0, 5⟩, 0.5⟩ = true ∧
      (@intersectsSphere ℝ .exact frustum ⟨⟨0, 0, 5⟩, 0⟩ = true ↔
        (⟨0, 0, 5⟩ : SceneVector3 ℝ) ∈ viewFrustum ahead (Real.pi / 2) 1 1 10) := by
  obtain ⟨frustum, hfrustum⟩ := accepted_ahead.exists_frustum
  refine ⟨frustum, hfrustum, ?_, (intersectsSphere_viewFrustum hfrustum ⟨⟨0, 0, 5⟩, 0⟩).2 rfl⟩
  refine (intersectsSphere_viewFrustum hfrustum ⟨⟨5.4, 0, 5⟩, 0.5⟩).1 ⟨⟨5, 0, 5⟩, ?_, ?_⟩
  · have htan : Real.tan (Real.pi / 2 / 2) = 1 := by
      rw [← Real.tan_pi_div_four, div_div]
      norm_num
    refine ⟨5, 5, 0, by norm_num, by norm_num, ?_, ?_, ?_⟩
    · rw [htan]
      norm_num
    · rw [htan]
      norm_num
    · rw [forward_ahead, right_ahead]
      ext i
      fin_cases i <;> norm_num [SceneVector3.coords, ahead]
  · rw [Real.sqrt_le_left (by norm_num)]
    norm_num [vec3_dotProduct, SceneVector3.coords]

end PerspectiveFrustum

end SurvivalArena
