import SurvivalArena.Framework.Numerals

/-!
# Spacing of marks

A sequence in which a mark comes again before too many items without one.
-/

/-- At most `slack` items come before the first mark, and fewer than `interval`
between two marks. -/
inductive Spaced (interval : Nat) : Nat → List Bool → Prop
  | nil (slack : Nat) : Spaced interval slack []
  | mark {slack : Nat} {marks : List Bool} (rest : Spaced interval (interval - 1) marks) :
    Spaced interval slack (true :: marks)
  | skip {slack : Nat} {marks : List Bool} (rest : Spaced interval slack marks) :
    Spaced interval (slack + 1) (false :: marks)

namespace Spaced

variable {interval slack : Nat} {marks : List Bool}

theorem mono (h : Spaced interval slack marks) {more : Nat} (hle : slack ≤ more) :
    Spaced interval more marks := by
  induction h generalizing more with
  | nil => exact .nil more
  | mark rest => exact .mark rest
  | skip _ ih =>
    obtain ⟨less, rfl⟩ := Nat.exists_eq_add_of_le' (Nat.one_le_of_lt hle)
    exact .skip (ih (Nat.le_of_succ_le_succ hle))

/-- What remains of a spaced sequence is spaced. -/
theorem tail {mark : Bool} (hpos : 0 < interval) (hslack : slack < interval)
    (h : Spaced interval slack (mark :: marks)) :
    Spaced interval (interval - 1) marks := by
  cases h with
  | mark rest => exact rest
  | skip rest => exact rest.mono (by omega)

theorem drop (hpos : 0 < interval) (hslack : slack < interval)
    (h : Spaced interval slack marks) (count : Nat) :
    Spaced interval (interval - 1) (marks.drop count) := by
  induction count generalizing slack marks with
  | zero => exact h.mono (by omega)
  | succ count ih =>
    cases marks with
    | nil => exact .nil _
    | cons mark marks => exact ih (by omega) (h.tail hpos hslack)

/-- More items than the slack hold a mark. -/
theorem mark_mem_take (h : Spaced interval slack marks) {count : Nat}
    (hcount : slack < count) (hlong : count ≤ marks.length) :
    true ∈ marks.take count := by
  induction h generalizing count with
  | nil =>
    rw [List.length_nil] at hlong
    omega
  | mark =>
    obtain ⟨less, rfl⟩ := Nat.exists_eq_add_of_le' (Nat.one_le_of_lt hcount)
    exact List.mem_cons_self
  | skip _ ih =>
    obtain ⟨less, rfl⟩ := Nat.exists_eq_add_of_le' (Nat.one_le_of_lt hcount)
    rw [List.length_cons] at hlong
    exact List.mem_cons_of_mem _ (ih (by omega) (by omega))

/-- Every window of the interval's length holds a mark. -/
theorem mark_mem_window (hpos : 0 < interval) (hslack : slack < interval)
    (h : Spaced interval slack marks) {window : List Bool} (hwindow : window <:+: marks)
    (hlength : window.length = interval) : true ∈ window := by
  obtain ⟨before, later, rfl⟩ := hwindow
  have hdrop := h.drop hpos hslack before.length
  rw [List.append_assoc, List.drop_left] at hdrop
  have hmem : true ∈ (window ++ later).take interval :=
    hdrop.mark_mem_take (by omega) (by simp [hlength])
  rw [← hlength, List.take_left] at hmem
  exact hmem

end Spaced
