import SurvivalArena.Framework.Numerals

/-!
# Edges of a signal

A signal that is on or off at each turn, and what a turn does to it: it enters, stays or
exits.  Between two entries there is one exit.
-/

inductive Edge where
  | enter
  | stay
  | exit
deriving DecidableEq

namespace Edge

/-- What becomes of a signal from one turn to the next. -/
def between : Bool → Bool → Option Edge
  | false, true => some enter
  | true, true => some stay
  | true, false => some exit
  | false, false => none

theorem between_injective :
    ∀ before first second, between before first = between before second → first = second := by
  decide

theorem between_eq_none :
    ∀ before now, between before now = none ↔ before = false ∧ now = false := by
  decide

/-- The edges of a signal, turn by turn. -/
def edges (before : Bool) : List Bool → List (Option Edge)
  | [] => []
  | now :: later => between before now :: edges now later

/-- The exits up to the next entry: one if the signal is on, none otherwise. -/
theorem count_exit_before_enter {before : Bool} {levels : List Bool}
    {middle back : List (Option Edge)}
    (h : edges before levels = middle ++ some enter :: back)
    (hmiddle : some enter ∉ middle) :
    middle.count (some exit) = if before then 1 else 0 := by
  induction levels generalizing before middle with
  | nil => cases middle <;> exact nomatch h
  | cons now later ih =>
    rw [edges] at h
    cases middle with
    | nil =>
      rw [List.nil_append] at h
      have hhead := (List.cons.inj h).1
      cases before with
      | false => rfl
      | true => cases now <;> exact nomatch hhead
    | cons first middle =>
      rw [List.cons_append] at h
      obtain ⟨hfirst, hrest⟩ := List.cons.inj h
      have hlater := ih hrest fun hmem => hmiddle (List.mem_cons_of_mem first hmem)
      rw [List.count_cons, hlater, ← hfirst]
      cases before with
      | false =>
        cases now with
        | false => rfl
        | true => exact absurd (hfirst ▸ List.mem_cons_self) hmiddle
      | true =>
        cases now with
        | false => rfl
        | true => rfl

/-- Between two entries with none between them there is one exit. -/
theorem count_exit_between_enters {before : Bool} {levels : List Bool}
    {front middle back : List (Option Edge)}
    (h : edges before levels = front ++ some enter :: middle ++ some enter :: back)
    (hmiddle : some enter ∉ middle) : middle.count (some exit) = 1 := by
  induction levels generalizing before front with
  | nil => cases front <;> exact nomatch h
  | cons now later ih =>
    rw [edges] at h
    cases front with
    | nil =>
      obtain ⟨hhead, hrest⟩ := List.cons.inj h
      have hnow : now = true := by
        cases before with
        | false =>
          cases now with
          | false => exact nomatch hhead
          | true => rfl
        | true => cases now <;> exact nomatch hhead
      subst hnow
      exact count_exit_before_enter hrest hmiddle
    | cons first front => exact ih (List.cons.inj h).2

end Edge
