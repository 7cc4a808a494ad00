import SurvivalArena.Framework.Numerals

/-!
# Walking along a line of points

A walk over a number of targets in a normed space, as far as a movement reaches.  A walk
in two parts is one walk, and what is walked is the smaller of the movement and the length
of the line.
-/

namespace Polyline

open AffineMap

variable {E : Type} [NormedAddCommGroup E] [NormedSpace ℝ E]

/-- The length of the line from a point over targets. -/
noncomputable def length (position : E) : List E → ℝ
  | [] => 0
  | target :: targets => dist position target + length target targets

/-- Where a walk ends, and how many targets it reaches. -/
noncomputable def walk (position : E) : List E → ℝ → E × Nat
  | [], _ => (position, 0)
  | target :: targets, movement =>
    if movement ≤ 0 then (position, 0)
    else if movement < dist position target then
      (lineMap position target (movement / dist position target), 0)
    else
      ((walk target targets (movement - dist position target)).1,
        (walk target targets (movement - dist position target)).2 + 1)

omit [NormedSpace ℝ E] in
theorem length_nonneg (position : E) (targets : List E) : 0 ≤ length position targets := by
  induction targets generalizing position with
  | nil => exact le_rfl
  | cons target targets ih => exact add_nonneg dist_nonneg (ih target)

theorem walk_of_nonpos (position : E) (targets : List E) {movement : ℝ} (h : movement ≤ 0) :
    walk position targets movement = (position, 0) := by
  cases targets with
  | nil => rfl
  | cons target targets => rw [walk, if_pos h]

/-- A walk that ends before the first target. -/
theorem walk_within {position target : E} (targets : List E) {movement : ℝ} (hpos : 0 ≤ movement)
    (h : movement < dist position target) :
    walk position (target :: targets) movement =
      (lineMap position target (movement / dist position target), 0) := by
  rw [walk]
  split
  next hzero =>
    obtain rfl := le_antisymm hzero hpos
    rw [zero_div, lineMap_apply_zero]
  next => rfl

/-- A walk that passes the first target. -/
theorem walk_past {position target : E} (targets : List E) {movement : ℝ} (hpos : 0 < movement)
    (h : dist position target ≤ movement) :
    walk position (target :: targets) movement =
      ((walk target targets (movement - dist position target)).1,
        (walk target targets (movement - dist position target)).2 + 1) := by
  rw [walk, if_neg (not_le.mpr hpos), if_neg (not_lt.mpr h)]

section Segment

variable {position target : E} {movement : ℝ}

theorem dist_within (hpos : 0 ≤ movement) (h : movement < dist position target) :
    dist position (lineMap position target (movement / dist position target)) = movement := by
  have hdist : 0 < dist position target := hpos.trans_lt h
  rw [dist_left_lineMap, Real.norm_of_nonneg (div_nonneg hpos hdist.le),
    div_mul_cancel₀ _ hdist.ne']

theorem dist_rest (hpos : 0 ≤ movement) (h : movement < dist position target) :
    dist (lineMap position target (movement / dist position target)) target =
      dist position target - movement := by
  have hdist : 0 < dist position target := hpos.trans_lt h
  have hle : movement / dist position target ≤ 1 := (div_le_one hdist).mpr h.le
  rw [dist_lineMap_right, Real.norm_of_nonneg (sub_nonneg.mpr hle), sub_mul, one_mul,
    div_mul_cancel₀ _ hdist.ne']

/-- Two moves towards a target are one. -/
theorem lineMap_twice (hpos : 0 ≤ movement) (h : movement < dist position target) {later : ℝ} :
    lineMap (lineMap position target (movement / dist position target)) target
        (later / (dist position target - movement)) =
      lineMap position target ((movement + later) / dist position target) := by
  have hdist : dist position target ≠ 0 := (hpos.trans_lt h).ne'
  have hrest : dist position target - movement ≠ 0 := (sub_pos.mpr h).ne'
  rw [lineMap_apply_module', lineMap_apply_module', lineMap_apply_module']
  generalize dist position target = whole at hdist hrest
  have hsplit : target - ((movement / whole) • (target - position) + position) =
      (1 - movement / whole) • (target - position) := by
    rw [sub_smul, one_smul]
    abel
  rw [hsplit, smul_smul, ← add_assoc, ← add_smul]
  congr 2
  field_simp
  ring

end Segment

/-- A walk goes as far as the movement at most. -/
theorem dist_walk_le (position : E) (targets : List E) {movement : ℝ} (hpos : 0 ≤ movement) :
    dist position (walk position targets movement).1 ≤ movement := by
  induction targets generalizing position movement with
  | nil =>
    rw [walk, dist_self]
    exact hpos
  | cons target targets ih =>
    rcases lt_or_ge movement (dist position target) with hwithin | hpast
    · rw [walk_within targets hpos hwithin]
      exact (dist_within hpos hwithin).le
    · rcases hpos.eq_or_lt with rfl | hmoves
      · rw [walk_of_nonpos _ _ le_rfl, dist_self]
      · rw [walk_past targets hmoves hpast]
        calc dist position (walk target targets (movement - dist position target)).1
            ≤ dist position target +
              dist target (walk target targets (movement - dist position target)).1 :=
                dist_triangle _ _ _
          _ ≤ dist position target + (movement - dist position target) :=
                add_le_add_right (ih target (sub_nonneg.mpr hpast)) _
          _ = movement := add_sub_cancel _ _

/-- The length of the rest of the line is less by what was walked. -/
theorem length_walk (position : E) (targets : List E) {movement : ℝ} (hpos : 0 ≤ movement) :
    length (walk position targets movement).1
        (targets.drop (walk position targets movement).2) =
      length position targets - min movement (length position targets) := by
  induction targets generalizing position movement with
  | nil =>
    rw [walk, List.drop_nil, length, min_eq_right hpos, sub_zero]
  | cons target targets ih =>
    have hrest := length_nonneg target targets
    rcases lt_or_ge movement (dist position target) with hwithin | hpast
    · rw [walk_within targets hpos hwithin, List.drop_zero, length, length,
        dist_rest hpos hwithin, min_eq_left (by linarith)]
      ring
    · rcases hpos.eq_or_lt with rfl | hmoves
      · rw [walk_of_nonpos _ _ le_rfl, List.drop_zero,
          min_eq_left (length_nonneg position (target :: targets)), sub_zero]
      · rw [walk_past targets hmoves hpast, List.drop_succ_cons,
          ih target (sub_nonneg.mpr hpast), length]
        have hmin : min movement (dist position target + length target targets) =
            dist position target +
              min (movement - dist position target) (length target targets) := by
          rw [← min_add_add_left, add_sub_cancel]
        rw [hmin]
        ring

/-- A walk in two parts. -/
theorem walk_add (position : E) (targets : List E) {first second : ℝ} (hfirst : 0 ≤ first)
    (hsecond : 0 ≤ second) :
    walk position targets (first + second) =
      ((walk (walk position targets first).1
          (targets.drop (walk position targets first).2) second).1,
        (walk position targets first).2 + (walk (walk position targets first).1
          (targets.drop (walk position targets first).2) second).2) := by
  induction targets generalizing position first with
  | nil => rfl
  | cons target targets ih =>
    rcases hfirst.eq_or_lt with rfl | hmoves
    · rw [zero_add, walk_of_nonpos _ _ le_rfl, List.drop_zero, Nat.zero_add]
    rcases lt_or_ge first (dist position target) with hwithin | hpast
    · rw [walk_within targets hfirst hwithin, List.drop_zero, Nat.zero_add]
      rcases lt_or_ge (first + second) (dist position target) with hboth | hthrough
      · have hlater : second < dist (lineMap position target (first / dist position target))
            target := by
          rw [dist_rest hfirst hwithin]
          linarith
        rw [walk_within targets (by linarith) hboth, walk_within targets hsecond hlater,
          dist_rest hfirst hwithin, lineMap_twice hfirst hwithin]
      · have hlater : dist (lineMap position target (first / dist position target)) target ≤
            second := by
          rw [dist_rest hfirst hwithin]
          linarith
        rw [walk_past targets (by linarith) hthrough, walk_past targets (by linarith) hlater,
          dist_rest hfirst hwithin]
        rw [show first + second - dist position target =
          second - (dist position target - first) by ring]
    · rw [walk_past targets hmoves hpast, walk_past targets (by linarith) (by linarith),
        List.drop_succ_cons, add_sub_right_comm, ih target (sub_nonneg.mpr hpast)]
      exact Prod.ext rfl (Nat.add_right_comm _ _ _)

end Polyline
