import SurvivalArena.Framework.Numerals

/-!
# Sweeping over intervals

Closed intervals, sorted by their ends, are swept from zero on and leave no gap before one
exactly where they cover everything between.
-/

namespace Sweep

variable {K : Type} [Field K] [LinearOrder K]

/-- The intervals in the order of their first ends, and then of their last ones. -/
def sortIntervals (intervals : List (K × K)) : List (K × K) :=
  intervals.insertionSort fun first second => toLex first ≤ toLex second

/-- No gap, but for a tolerance, is left between what is covered and one. -/
def sweep (epsilon : K) (covered : K) : List (K × K) → Bool
  | [] => false
  | interval :: intervals =>
    if covered + epsilon < interval.1 then false
    else
      let covered := max covered interval.2
      if 1 - epsilon ≤ covered then true else sweep epsilon covered intervals

/-- The number is in one of the intervals. -/
def Covered (intervals : List (K × K)) (t : K) : Prop :=
  ∃ interval ∈ intervals, interval.1 ≤ t ∧ t ≤ interval.2

omit [Field K] in
theorem covered_cons {interval : K × K} {intervals : List (K × K)} {t : K} :
    Covered (interval :: intervals) t ↔
      (interval.1 ≤ t ∧ t ≤ interval.2) ∨ Covered intervals t := by
  simp [Covered]

omit [Field K] in
theorem sortIntervals_sorted (intervals : List (K × K)) :
    (sortIntervals intervals).Pairwise fun first second => first.1 ≤ second.1 := by
  have hlex := List.pairwise_insertionSort
    (fun first second : K × K => toLex first ≤ toLex second) intervals
  refine hlex.imp ?_
  intro first second hle
  exact Prod.Lex.monotone_fst _ _ hle

omit [Field K] in
theorem covered_sortIntervals {intervals : List (K × K)} {t : K} :
    Covered (sortIntervals intervals) t ↔ Covered intervals t := by
  simp [Covered, sortIntervals]

variable [IsStrictOrderedRing K]

/-- The sweep from a number before one on. -/
theorem sweep_from_iff {intervals : List (K × K)}
    (hsorted : intervals.Pairwise fun first second => first.1 ≤ second.1) {covered : K}
    (hcovered : covered < 1) : sweep 0 covered intervals = true ↔
      ∀ t, covered < t → t ≤ 1 → Covered intervals t := by
  induction intervals generalizing covered with
  | nil =>
    simp only [sweep, Covered, List.not_mem_nil, false_and, exists_false, Bool.false_eq_true,
      false_iff]
    intro hall
    exact hall 1 hcovered le_rfl
  | cons interval intervals ih =>
    obtain ⟨hfirst, hrest⟩ := List.pairwise_cons.mp hsorted
    simp only [sweep, add_zero, sub_zero]
    by_cases hgap : covered < interval.1
    · -- a number in the gap is in no interval
      simp only [if_pos hgap, Bool.false_eq_true, false_iff]
      intro hall
      obtain ⟨t, hlow, hhigh⟩ := exists_between (lt_min hgap hcovered)
      have hbefore := lt_min_iff.mp hhigh
      rcases covered_cons.mp (hall t hlow hbefore.2.le) with hin | ⟨other, hother, hin⟩
      · exact absurd hbefore.1 (not_lt.mpr hin.1)
      · exact absurd hbefore.1 (not_lt.mpr ((hfirst other hother).trans hin.1))
    · rw [if_neg hgap]
      have hstart : interval.1 ≤ covered := not_lt.mp hgap
      by_cases hdone : 1 ≤ max covered interval.2
      · simp only [if_pos hdone, true_iff]
        intro t hlow hhigh
        have hlast : 1 ≤ interval.2 := by
          rcases le_max_iff.mp hdone with hle | hle
          · exact absurd hcovered (not_lt.mpr hle)
          · exact hle
        exact covered_cons.mpr (.inl ⟨hstart.trans hlow.le, hhigh.trans hlast⟩)
      · rw [if_neg hdone, ih hrest (not_le.mp hdone)]
        constructor
        · intro hall t hlow hhigh
          by_cases hin : t ≤ interval.2
          · exact covered_cons.mpr (.inl ⟨hstart.trans hlow.le, hin⟩)
          · exact covered_cons.mpr (.inr (hall t (max_lt hlow (not_le.mp hin)) hhigh))
        · intro hall t hlow hhigh
          obtain ⟨hafter, hpast⟩ := max_lt_iff.mp hlow
          rcases covered_cons.mp (hall t hafter hhigh) with hin | hin
          · exact absurd hpast (not_lt.mpr hin.2)
          · exact hin

/-- The sweep of sorted intervals leaves no gap exactly where they cover all numbers from
zero to one. -/
theorem sweep_iff {intervals : List (K × K)} (hproper : ∀ interval ∈ intervals,
    0 ≤ interval.2) : sweep 0 0 (sortIntervals intervals) = true ↔
      ∀ t, 0 ≤ t → t ≤ 1 → Covered intervals t := by
  have hsorted := sortIntervals_sorted intervals
  have hsweep := sweep_from_iff hsorted zero_lt_one
  constructor
  · intro hswept t hlow hhigh
    rcases hlow.eq_or_lt with rfl | hlow
    · -- the first of the intervals starts no later than at zero
      rw [← covered_sortIntervals]
      have hmem : ∀ interval ∈ sortIntervals intervals, 0 ≤ interval.2 := by
        intro interval hinterval
        exact hproper interval (by simpa [sortIntervals] using hinterval)
      cases hlist : sortIntervals intervals with
      | nil => simp [hlist, sweep] at hswept
      | cons interval rest =>
        rw [hlist] at hswept hmem
        refine covered_cons.mpr (.inl ⟨?_, hmem interval List.mem_cons_self⟩)
        by_contra hgap
        have hfalse : sweep 0 0 (interval :: rest) = false := by
          simp only [sweep, add_zero]
          rw [if_pos (not_le.mp hgap)]
        rw [hfalse] at hswept
        exact Bool.false_ne_true hswept
    · exact covered_sortIntervals.mp (hsweep.mp hswept t hlow hhigh)
  · intro hall
    refine hsweep.mpr ?_
    intro t hlow hhigh
    exact covered_sortIntervals.mpr (hall t hlow.le hhigh)

/-! ## Clipping -/

/-- Zero, or a number that a tolerance takes for it. -/
def Negligible (tolerance x : K) : Prop := |x| < tolerance ∨ x = 0

instance (tolerance x : K) : Decidable (Negligible tolerance x) :=
  inferInstanceAs (Decidable (_ ∨ _))

/-- The part of an interval where a weight that changes from `initial` to `final` between
zero and one is not negative, but for a tolerance. -/
def clip (tiny epsilon initial final : K) (interval : K × K) : Option (K × K) :=
  let change := final - initial
  if Negligible tiny change then
    if -epsilon ≤ initial then some interval else none
  else
    let crossing := (-epsilon - initial) / change
    let interval :=
      if 0 < change then (max interval.1 crossing, interval.2)
      else (interval.1, min interval.2 crossing)
    if interval.1 ≤ interval.2 then some interval else none

/-- What is clipped is the part where the weight is not negative. -/
structure Clips (interval : K × K) (weight : K → K) (clipped : Option (K × K)) : Prop where
  proper : ∀ part ∈ clipped, part.1 ≤ part.2
  iff : ∀ t, (∃ part ∈ clipped, part.1 ≤ t ∧ t ≤ part.2) ↔
    interval.1 ≤ t ∧ t ≤ interval.2 ∧ 0 ≤ weight t

theorem clip_clips (initial final : K) {interval : K × K} (hproper : interval.1 ≤ interval.2) :
    Clips interval (fun t => initial + t * (final - initial))
      (clip 0 0 initial final interval) := by
  have htiny : Negligible 0 (final - initial) ↔ final - initial = 0 := by
    simp [Negligible, not_lt.mpr (abs_nonneg (final - initial))]
  unfold clip
  simp only [htiny, neg_zero, zero_sub]
  by_cases hconstant : final - initial = 0
  · simp only [hconstant, if_true, mul_zero, add_zero]
    by_cases hinitial : 0 ≤ initial
    · simp only [if_pos hinitial]
      exact ⟨by simpa using hproper, by simp [hinitial]⟩
    · simp only [if_neg hinitial]
      exact ⟨by simp, by simp [hinitial]⟩
  · rw [if_neg hconstant]
    by_cases hchange : 0 < final - initial
    · have hweight : ∀ t, 0 ≤ initial + t * (final - initial) ↔
          -initial / (final - initial) ≤ t := by
        intro t
        rw [div_le_iff₀ hchange]
        constructor <;> intro h <;> linarith
      simp only [if_pos hchange]
      by_cases hpart : max interval.1 (-initial / (final - initial)) ≤ interval.2
      · simp only [if_pos hpart]
        refine ⟨by simpa using hpart, ?_⟩
        intro t
        simp only [Option.mem_some_iff, exists_eq_left', hweight, max_le_iff]
        tauto
      · simp only [if_neg hpart]
        refine ⟨by simp, ?_⟩
        intro t
        simp only [Option.not_mem_none, false_and, exists_false, hweight, false_iff]
        intro hin
        exact hpart ((max_le hin.1 hin.2.2).trans hin.2.1)
    · have hfalling : final - initial < 0 := lt_of_le_of_ne (not_lt.mp hchange) hconstant
      have hweight : ∀ t, 0 ≤ initial + t * (final - initial) ↔
          t ≤ -initial / (final - initial) := by
        intro t
        rw [le_div_iff_of_neg hfalling]
        constructor <;> intro h <;> linarith
      simp only [if_neg hchange]
      by_cases hpart : interval.1 ≤ min interval.2 (-initial / (final - initial))
      · simp only [if_pos hpart]
        refine ⟨by simpa using hpart, ?_⟩
        intro t
        simp only [Option.mem_some_iff, exists_eq_left', hweight, le_min_iff]
      · simp only [if_neg hpart]
        refine ⟨by simp, ?_⟩
        intro t
        simp only [Option.not_mem_none, false_and, exists_false, hweight, false_iff]
        intro hin
        exact hpart (hin.1.trans (le_min hin.2.1 hin.2.2))

end Sweep
