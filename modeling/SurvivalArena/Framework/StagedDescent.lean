import SurvivalArena.Framework.Numerals

/-!
# Descent in stages

A value that falls linearly over one stretch of steps after another.  Where the stretches join,
it falls by the slope of the running stretch with every step, across their ends too.
-/

/-- A stretch of steps and the values at its two ends. -/
structure Stretch (K : Type) where
  start : Nat
  finish : Nat
  first : K
  last : K

namespace Stretch

variable {K : Type} [Field K]

/-- How much the value falls with a step. -/
def slope (s : Stretch K) : K :=
  (s.first - s.last) / ((s.finish - s.start : ℕ) : K)

def valueAt (s : Stretch K) (n : Nat) : K :=
  s.first + (s.last - s.first) * (((n - s.start : ℕ) : K) / ((s.finish - s.start : ℕ) : K))

theorem valueAt_start (s : Stretch K) : s.valueAt s.start = s.first := by
  rw [valueAt, Nat.sub_self, Nat.cast_zero, zero_div, mul_zero, add_zero]

theorem valueAt_succ (s : Stretch K) {n : Nat} (hn : s.start ≤ n) :
    s.valueAt (n + 1) = s.valueAt n - s.slope := by
  rw [valueAt, valueAt, slope, Nat.sub_add_comm hn, Nat.cast_succ]
  ring

/-- The stretch the steps are in. -/
def running (ss : List (Stretch K)) (n : Nat) : Option (Stretch K) :=
  ss.find? fun s => n < s.finish

/-- The value of the running stretch, or the final one after all of them. -/
def valueAlong (final : K) (ss : List (Stretch K)) (n : Nat) : K :=
  (running ss n).elim final fun s => s.valueAt n

def slopeAlong (ss : List (Stretch K)) (n : Nat) : K :=
  (running ss n).elim 0 slope

omit [Field K] in
theorem running_cons (s : Stretch K) (ss : List (Stretch K)) (n : Nat) :
    running (s :: ss) n = if n < s.finish then some s else running ss n := by
  by_cases h : n < s.finish <;> simp [running, h]

variable [LinearOrder K]

structure Descends (s : Stretch K) : Prop where
  proper : s.start < s.finish
  falls : s.last ≤ s.first

/-- Stretches that begin at a step with a value, each where the one before ends, down to the final
value. -/
def Joined (final : K) : Nat → K → List (Stretch K) → Prop
  | _, first, [] => first = final
  | start, first, s :: ss =>
    s.start = start ∧ s.first = first ∧ s.Descends ∧ Joined final s.finish s.last ss

variable [IsStrictOrderedRing K]

theorem Descends.width_pos {s : Stretch K} (h : s.Descends) :
    (0 : K) < ((s.finish - s.start : ℕ) : K) :=
  Nat.cast_pos.mpr (Nat.sub_pos_of_lt h.proper)

theorem Descends.slope_nonneg {s : Stretch K} (h : s.Descends) : 0 ≤ s.slope :=
  div_nonneg (sub_nonneg.mpr h.falls) h.width_pos.le

theorem Descends.valueAt_finish {s : Stretch K} (h : s.Descends) :
    s.valueAt s.finish = s.last := by
  rw [valueAt, div_self h.width_pos.ne', mul_one, add_sub_cancel]

theorem Descends.last_le_valueAt {s : Stretch K} (h : s.Descends) {n : Nat} (hn : n ≤ s.finish) :
    s.last ≤ s.valueAt n := by
  have hpart : ((n - s.start : ℕ) : K) / ((s.finish - s.start : ℕ) : K) ≤ 1 := by
    apply div_le_one_of_le₀
    · exact_mod_cast Nat.sub_le_sub_right hn _
    · exact h.width_pos.le
  have hfall := mul_le_mul_of_nonpos_left hpart (sub_nonpos.mpr h.falls)
  rw [valueAt]
  linarith

omit [IsStrictOrderedRing K] in
theorem Joined.valueAlong_start {final first : K} {start : Nat} {ss : List (Stretch K)}
    (h : Joined final start first ss) : valueAlong final ss start = first := by
  cases ss with
  | nil => exact Eq.symm h
  | cons s ss =>
    obtain ⟨rfl, rfl, hs, -⟩ := h
    rw [valueAlong, running_cons, if_pos hs.proper]
    exact s.valueAt_start

/-- With every step the value falls by the slope of the running stretch. -/
theorem Joined.valueAlong_succ {final first : K} {start : Nat} {ss : List (Stretch K)}
    (h : Joined final start first ss) {n : Nat} (hn : start ≤ n) :
    valueAlong final ss (n + 1) = valueAlong final ss n - slopeAlong ss n := by
  induction ss generalizing start first with
  | nil => exact (sub_zero _).symm
  | cons s ss ih =>
    obtain ⟨rfl, rfl, hs, hss⟩ := h
    unfold valueAlong slopeAlong
    rw [running_cons, running_cons]
    by_cases hrunning : n < s.finish
    · rw [if_pos hrunning]
      show _ = s.valueAt n - s.slope
      rw [← s.valueAt_succ hn]
      by_cases hnext : n + 1 < s.finish
      · rw [if_pos hnext]
        rfl
      · -- the step ends the stretch, where the next one begins
        have hend : n + 1 = s.finish := by omega
        rw [if_neg hnext, hend, hs.valueAt_finish]
        exact hss.valueAlong_start
    · rw [if_neg hrunning, if_neg (by omega)]
      exact ih hss (by omega)

omit [Field K] [IsStrictOrderedRing K] in
theorem Joined.descends {final first : K} {start : Nat} {ss : List (Stretch K)}
    (h : Joined final start first ss) {s : Stretch K} (hs : s ∈ ss) : s.Descends := by
  induction ss generalizing start first with
  | nil => cases hs
  | cons s' ss ih =>
    rcases List.mem_cons.mp hs with rfl | hlater
    · exact h.2.2.1
    · exact ih h.2.2.2 hlater

theorem Joined.slopeAlong_nonneg {final first : K} {start : Nat} {ss : List (Stretch K)}
    (h : Joined final start first ss) (n : Nat) : 0 ≤ slopeAlong ss n := by
  unfold slopeAlong
  cases hrunning : running ss n with
  | none => exact le_rfl
  | some s => exact (h.descends (List.mem_of_find?_eq_some hrunning)).slope_nonneg

theorem Joined.antitone {final first : K} {ss : List (Stretch K)}
    (h : Joined final 0 first ss) : Antitone (valueAlong final ss) := by
  refine antitone_nat_of_succ_le fun n => ?_
  rw [h.valueAlong_succ (Nat.zero_le n)]
  exact sub_le_self _ (h.slopeAlong_nonneg n)

end Stretch

/-! ## Later elements -/

/-- Of two conditions, what first meets the stricter one is no earlier in the list. -/
theorem find?_later {α : Type} {p q : α → Bool} (himp : ∀ a, q a = true → p a = true)
    {R : α → α → Prop} (hrefl : ∀ a, R a a) {l : List α} (hl : l.Pairwise R) {a b : α}
    (ha : l.find? p = some a) (hb : l.find? q = some b) : R a b := by
  induction l with
  | nil => cases ha
  | cons c l ih =>
    obtain ⟨hc, hl⟩ := List.pairwise_cons.mp hl
    rw [List.find?_cons] at ha hb
    by_cases hp : p c = true
    · rw [hp] at ha
      obtain rfl := Option.some.inj ha
      by_cases hq : q c = true
      · rw [hq] at hb
        obtain rfl := Option.some.inj hb
        exact hrefl c
      · rw [Bool.eq_false_iff.mpr hq] at hb
        exact hc b (List.mem_of_find?_eq_some hb)
    · rw [Bool.eq_false_iff.mpr hp] at ha
      rw [Bool.eq_false_iff.mpr fun hq => hp (himp c hq)] at hb
      exact ih hl ha hb
