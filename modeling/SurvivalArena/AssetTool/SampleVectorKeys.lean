import SurvivalArena.Framework.Numerals

/-!
# Animation keys

Vector keys sampled at a time.  Between the ends the sample lies on the segment of the two keys
around the time, and it moves continuously past every time at which at most one key stands.
-/

namespace SurvivalArena

structure VectorKey (K : Type) where
  time : K
  value : Fin 3 → K
deriving DecidableEq

section Code

variable {K : Type} [LinearOrder K]

/-- The first interval whose right end is not before the time. -/
def firstInterval (time : K) : List (VectorKey K) → Option (VectorKey K × VectorKey K)
  | left :: right :: keys =>
    if time ≤ right.time then some (left, right) else firstInterval time (right :: keys)
  | _ => none

variable [Field K]

def interpolate (left right : VectorKey K) (time : K) : Fin 3 → K :=
  let factor := (time - left.time) / (right.time - left.time)
  left.value + factor • (right.value - left.value)

def sampleVectorKeys (keys : List (VectorKey K)) (time : K) (fallback : Fin 3 → K) :
    Fin 3 → K :=
  match keys with
  | [] => fallback
  | first :: rest =>
    let last := (first :: rest).getLast (List.cons_ne_nil first rest)
    if keys.length = 1 ∨ time ≤ first.time then first.value
    else if last.time ≤ time then last.value
    else
      match firstInterval time keys with
      | some (left, right) => interpolate left right time
      | none => last.value

end Code

/-- The times of the keys do not decrease. -/
def Timed {K : Type} [LinearOrder K] (keys : List (VectorKey K)) : Prop :=
  keys.Pairwise fun key later => key.time ≤ later.time

section Intervals

variable {K : Type} [LinearOrder K] {time : K}

/-- After the first key and no later than the last there is an interval, and the time is past
its left end. -/
theorem firstInterval_brackets {first : VectorKey K} {rest : List (VectorKey K)}
    (hfirst : first.time < time)
    (hlast : time ≤ ((first :: rest).getLast (List.cons_ne_nil first rest)).time) :
    ∃ before left right after, first :: rest = before ++ left :: right :: after ∧
      firstInterval time (first :: rest) = some (left, right) ∧
      left.time < time ∧ time ≤ right.time := by
  induction rest generalizing first with
  | nil => exact absurd (hfirst.trans_le hlast) (lt_irrefl _)
  | cons next rest ih =>
    by_cases hnext : time ≤ next.time
    · exact ⟨[], first, next, rest, rfl, if_pos hnext, hfirst, hnext⟩
    · obtain ⟨before, left, right, after, hkeys, hfound, hpast, hbefore⟩ :=
        ih (not_le.mp hnext) hlast
      refine ⟨first :: before, left, right, after, ?_, ?_, hpast, hbefore⟩
      · rw [hkeys]
        rfl
      · rw [firstInterval, if_neg hnext, hfound]

theorem Timed.first_le_last {first : VectorKey K} {rest : List (VectorKey K)}
    (h : Timed (first :: rest)) :
    first.time ≤ ((first :: rest).getLast (List.cons_ne_nil first rest)).time := by
  rcases List.mem_cons.mp (List.getLast_mem (List.cons_ne_nil first rest)) with hlast | hlast
  · rw [hlast]
  · exact (List.pairwise_cons.mp h).1 _ hlast

end Intervals

/-! ## Outside the keys -/

section Ends

variable {K : Type} [Field K] [LinearOrder K] {first : VectorKey K} {rest : List (VectorKey K)}
  {time : K} {fallback : Fin 3 → K}

theorem sampleVectorKeys_single : sampleVectorKeys [first] time fallback = first.value := by
  unfold sampleVectorKeys
  exact if_pos (.inl List.length_singleton)

theorem sampleVectorKeys_before (h : time ≤ first.time) :
    sampleVectorKeys (first :: rest) time fallback = first.value :=
  if_pos (.inr h)

theorem sampleVectorKeys_after (hfirst : first.time < time)
    (hlast : ((first :: rest).getLast (List.cons_ne_nil first rest)).time ≤ time) :
    sampleVectorKeys (first :: rest) time fallback =
      ((first :: rest).getLast (List.cons_ne_nil first rest)).value := by
  by_cases hsingle : (first :: rest).length = 1
  · obtain rfl : rest = [] := by simpa using hsingle
    exact sampleVectorKeys_single
  · have hinside : ¬((first :: rest).length = 1 ∨ time ≤ first.time) :=
      not_or.mpr ⟨hsingle, hfirst.not_ge⟩
    exact (if_neg hinside).trans (if_pos hlast)

theorem sampleVectorKeys_between {left right : VectorKey K} (hfirst : first.time < time)
    (hlast : time < ((first :: rest).getLast (List.cons_ne_nil first rest)).time)
    (hfound : firstInterval time (first :: rest) = some (left, right)) :
    sampleVectorKeys (first :: rest) time fallback = interpolate left right time := by
  have hsingle : (first :: rest).length ≠ 1 := by
    intro hsingle
    obtain rfl : rest = [] := by simpa using hsingle
    exact absurd (hfirst.trans hlast) (lt_irrefl _)
  have hinside : ¬((first :: rest).length = 1 ∨ time ≤ first.time) :=
    not_or.mpr ⟨hsingle, hfirst.not_ge⟩
  refine (if_neg hinside).trans ((if_neg hlast.not_ge).trans ?_)
  rw [hfound]

/-- The sample does not see a key that the time has passed for good. -/
theorem sampleVectorKeys_cons {second : VectorKey K} (htimed : first.time ≤ second.time)
    (h : second.time < time) :
    sampleVectorKeys (first :: second :: rest) time fallback =
      sampleVectorKeys (second :: rest) time fallback := by
  have hfirst : first.time < time := htimed.trans_lt h
  rcases le_or_gt ((second :: rest).getLast (List.cons_ne_nil second rest)).time time with
    hlast | hlast
  · have hsame : ((first :: second :: rest).getLast (List.cons_ne_nil _ _)).time ≤ time := hlast
    rw [sampleVectorKeys_after hfirst hsame, sampleVectorKeys_after h hlast]
    rfl
  · have hreach : time < ((first :: second :: rest).getLast (List.cons_ne_nil _ _)).time := hlast
    obtain ⟨_, left, right, _, -, hfound, -, -⟩ := firstInterval_brackets h hlast.le
    have hsame : firstInterval time (first :: second :: rest) = some (left, right) := by
      rw [firstInterval, if_neg h.not_ge, hfound]
    rw [sampleVectorKeys_between hfirst hreach hsame, sampleVectorKeys_between h hlast hfound]

end Ends

/-! ## On the segments -/

section Segments

variable {K : Type} [Field K] [LinearOrder K] [IsStrictOrderedRing K]

/-- The only division is by the length of an interval that the time is in, and what it yields
weighs the two ends. -/
theorem interpolate_convex {left right : VectorKey K} {time : K} (hpast : left.time < time)
    (hbefore : time ≤ right.time) :
    ∃ factor : K, 0 ≤ factor ∧ factor ≤ 1 ∧ interpolate left right time =
      (1 - factor) • left.value + factor • right.value := by
  have hlength : 0 < right.time - left.time := sub_pos.mpr (hpast.trans_le hbefore)
  refine ⟨(time - left.time) / (right.time - left.time), ?_, ?_, ?_⟩
  · exact div_nonneg (sub_nonneg.mpr hpast.le) hlength.le
  · rw [div_le_one hlength]
    linarith
  · unfold interpolate
    dsimp only
    rw [smul_sub, sub_smul, one_smul]
    abel

omit [LinearOrder K] [IsStrictOrderedRing K] in
theorem interpolate_left {left right : VectorKey K} :
    interpolate left right left.time = left.value := by
  simp [interpolate]

theorem interpolate_right {left right : VectorKey K} (h : left.time < right.time) :
    interpolate left right right.time = right.value := by
  have hlength : right.time - left.time ≠ 0 := (sub_pos.mpr h).ne'
  unfold interpolate
  dsimp only
  rw [div_self hlength, one_smul, add_sub_cancel]

/-- A first segment, held at its ends, and what the later keys add to it. -/
theorem sampleVectorKeys_split {first second : VectorKey K} {rest : List (VectorKey K)}
    {time : K} {fallback : Fin 3 → K} (htimed : Timed (first :: second :: rest))
    (h : first.time < second.time) (hsingle : time = second.time → rest = [] ∨
      second.time < ((second :: rest).getLast (List.cons_ne_nil second rest)).time) :
    sampleVectorKeys (first :: second :: rest) time fallback =
      interpolate first second (max first.time (min time second.time)) +
        (sampleVectorKeys (second :: rest) time fallback - second.value) := by
  rcases le_or_gt time second.time with hbefore | hpast
  · have hlater : sampleVectorKeys (second :: rest) time fallback = second.value :=
      sampleVectorKeys_before hbefore
    rw [hlater, sub_self, add_zero, min_eq_left hbefore]
    rcases le_or_gt time first.time with hfirst | hfirst
    · rw [sampleVectorKeys_before hfirst, max_eq_left hfirst, interpolate_left]
    · rw [max_eq_right hfirst.le]
      have hfound : firstInterval time (first :: second :: rest) = some (first, second) :=
        if_pos hbefore
      have hreach := Timed.first_le_last (List.pairwise_cons.mp htimed).2
      rcases le_or_gt ((second :: rest).getLast (List.cons_ne_nil second rest)).time time with
        hlast | hlast
      · -- The time is that of the last key, which stands alone.
        have hsame : time = second.time := le_antisymm hbefore (hreach.trans hlast)
        rcases hsingle hsame with rfl | hlonger
        · have hend : ((first :: second :: []).getLast (List.cons_ne_nil _ _)).time ≤ time := hlast
          rw [sampleVectorKeys_after hfirst hend, hsame, interpolate_right h]
          rfl
        · exact absurd (hlonger.trans_le hlast) hbefore.not_gt
      · exact sampleVectorKeys_between hfirst hlast hfound
  · rw [sampleVectorKeys_cons h.le hpast, min_eq_right hpast.le, max_eq_right h.le,
      interpolate_right h]
    abel

end Segments

/-! ## Continuity -/

section Continuity

theorem interpolate_continuous (left right : VectorKey ℝ) :
    Continuous (interpolate left right) := by
  unfold interpolate
  fun_prop

/-- The sample is continuous at every time at which at most one key stands. -/
theorem sampleVectorKeys_continuousAt {first : VectorKey ℝ} {rest : List (VectorKey ℝ)}
    (fallback : Fin 3 → ℝ) {time : ℝ} (htimed : Timed (first :: rest))
    (hsingle : ((first :: rest).map VectorKey.time).count time ≤ 1) :
    ContinuousAt (fun time => sampleVectorKeys (first :: rest) time fallback) time := by
  induction rest generalizing first with
  | nil =>
    have hconstant : (fun time => sampleVectorKeys [first] time fallback) = fun _ => first.value :=
      funext fun _ => sampleVectorKeys_single
    rw [hconstant]
    exact continuousAt_const
  | cons second rest ih =>
    have hlater : Timed (second :: rest) := (List.pairwise_cons.mp htimed).2
    have hordered : first.time ≤ second.time :=
      (List.pairwise_cons.mp htimed).1 second List.mem_cons_self
    rw [List.map_cons, List.count_cons] at hsingle
    have htail := ih hlater (by omega)
    rcases lt_or_ge second.time time with hpast | hbefore
    · -- Past both keys, the first is not seen.
      refine htail.congr (Filter.eventually_of_mem (Ioi_mem_nhds hpast) fun later hlater => ?_)
      exact (sampleVectorKeys_cons hordered hlater).symm
    rcases lt_or_ge time first.time with hfirst | hfirst
    · -- Before the first key its value is held.
      refine (continuousAt_const (y := first.value)).congr
        (Filter.eventually_of_mem (Iio_mem_nhds hfirst) fun earlier hearlier => ?_)
      exact (sampleVectorKeys_before (le_of_lt hearlier)).symm
    have hlength : first.time < second.time := by
      refine lt_of_le_of_ne hordered fun hsame => ?_
      have hboth : time = second.time := le_antisymm hbefore (hsame ▸ hfirst)
      rw [List.map_cons, List.count_cons, hboth, hsame] at hsingle
      simp at hsingle
    -- Around the time the sample is the first segment plus what the later keys add.
    have hheld : Continuous fun time : ℝ =>
        interpolate first second (max first.time (min time second.time)) :=
      (interpolate_continuous first second).comp (by fun_prop)
    have hsum : ContinuousAt (fun time =>
        interpolate first second (max first.time (min time second.time)) +
          (sampleVectorKeys (second :: rest) time fallback - second.value)) time :=
      hheld.continuousAt.add (htail.sub continuousAt_const)
    refine hsum.congr ?_
    rcases lt_or_eq_of_le hbefore with hstrict | hsame
    · refine Filter.eventually_of_mem (Iio_mem_nhds hstrict) fun earlier hearlier => ?_
      exact (sampleVectorKeys_split htimed hlength fun h => absurd h (ne_of_lt hearlier)).symm
    · refine Filter.Eventually.of_forall fun other => ?_
      refine (sampleVectorKeys_split htimed hlength fun _ => ?_).symm
      cases rest with
      | nil => exact .inl rfl
      | cons third rest =>
        refine .inr (lt_of_le_of_ne (Timed.first_le_last hlater) fun hend => ?_)
        have hlast : second.time ∈ (third :: rest).map VectorKey.time := by
          rw [hend]
          exact List.mem_map_of_mem (List.getLast_mem (List.cons_ne_nil third rest))
        have hcount := List.count_pos_iff.mpr hlast
        rw [hsame, List.map_cons, List.count_cons_self] at hsingle
        omega

/-- Two keys at one time: the sample jumps from the one to the other there, and is continuous
at all other times. -/
def stepKeys : List (VectorKey ℝ) :=
  [⟨0, ![0, 0, 0]⟩, ⟨1, ![1, 0, 0]⟩, ⟨1, ![2, 0, 0]⟩, ⟨3, ![4, 0, 0]⟩]

end Continuity

end SurvivalArena
