import SurvivalArena.Framework.Numerals

/-!
# Assignments of tasks to workers

A dispatcher knows the tasks it waits for and those under way, a pool knows what each
worker is assigned to.  One rule says when the two still agree after one worker's
assignment changed.
-/

/-- What a worker does: it is reserved for a task under a request, lets go of it or
works on it. -/
inductive Assignment (ρ μ : Type) where
  | idle
  | reserved (request : ρ) (task : μ)
  | cancelling (request : ρ) (task : μ)
  | active (request : ρ) (task : μ)

namespace Assignment

variable {ω ρ μ : Type}

def task : Assignment ρ μ → Option μ
  | .idle => none
  | .reserved _ task => some task
  | .cancelling _ task => some task
  | .active _ task => some task

/-- The dispatcher waits for just the reserved workers, every task under way has its
worker, and no task has two. -/
structure Linked (pending : ρ → Option μ) (active : μ → Option ω)
    (assigned : ω → Option (Assignment ρ μ)) : Prop where
  pending : ∀ request task, pending request = some task ↔
    ∃ worker, assigned worker = some (.reserved request task)
  active : ∀ task worker, active task = some worker →
    ∃ request, assigned worker = some (.active request task)
  distinct : ∀ first second one two task, assigned first = some one →
    assigned second = some two → one.task = some task → two.task = some task →
    first = second

/-- A worker works on a task that the dispatcher does not know to be under way. -/
def Forgotten (active : μ → Option ω) (assigned : ω → Option (Assignment ρ μ))
    (worker : ω) (request : ρ) (task : μ) : Prop :=
  assigned worker = some (.active request task) ∧ active task ≠ some worker

variable {pending pending' : ρ → Option μ} {active active' : μ → Option ω}
  {assigned : ω → Option (Assignment ρ μ)}

/-- A request is reserved by one worker only. -/
theorem Linked.reserved_unique (h : Linked pending active assigned) {first second : ω}
    {request : ρ} {one two : μ} (hfirst : assigned first = some (.reserved request one))
    (hsecond : assigned second = some (.reserved request two)) : first = second := by
  have hone := (h.pending request one).mpr ⟨first, hfirst⟩
  have htwo := (h.pending request two).mpr ⟨second, hsecond⟩
  obtain rfl := Option.some.inj (hone.symm.trans htwo)
  exact h.distinct first second _ _ one hfirst hsecond rfl rfl

variable [DecidableEq ω]

/-- One worker's assignment changes, and the dispatcher's tables with it. -/
theorem Linked.reassign (h : Linked pending active assigned) {worker : ω}
    {old new : Option (Assignment ρ μ)} (hold : assigned worker = old)
    (hpending : ∀ request task, pending' request = some task ↔
      (pending request = some task ∧ old ≠ some (.reserved request task)) ∨
        new = some (.reserved request task))
    (hactive : ∀ task other, active' task = some other →
      (active task = some other ∧ ∀ request, old ≠ some (.active request task)) ∨
        (other = worker ∧ ∃ request, new = some (.active request task)))
    (hdistinct : ∀ assignment task, new = some assignment →
      assignment.task = some task → old.bind Assignment.task = some task ∨
        ∀ other otherAssignment, assigned other = some otherAssignment →
          otherAssignment.task ≠ some task) :
    Linked pending' active' (Function.update assigned worker new) where
  pending := by
    intro request task
    rw [hpending]
    constructor
    · rintro (⟨hbefore, hne⟩ | hnew)
      · obtain ⟨other, hother⟩ := (h.pending request task).mp hbefore
        have hworker : other ≠ worker := by
          rintro rfl
          exact hne (hold.symm.trans hother)
        exact ⟨other, by rw [Function.update_of_ne hworker, hother]⟩
      · exact ⟨worker, by rw [Function.update_self, hnew]⟩
    · rintro ⟨other, hother⟩
      by_cases hworker : other = worker
      · rw [hworker, Function.update_self] at hother
        exact Or.inr hother
      · rw [Function.update_of_ne hworker] at hother
        refine Or.inl ⟨(h.pending request task).mpr ⟨other, hother⟩, ?_⟩
        intro heq
        exact hworker (h.reserved_unique hother (hold.trans heq))
  active := by
    intro task other hother
    rcases hactive task other hother with ⟨hbefore, hne⟩ | ⟨rfl, request, hnew⟩
    · obtain ⟨request, hassigned⟩ := h.active task other hbefore
      have hworker : other ≠ worker := by
        rintro rfl
        exact hne request (hold.symm.trans hassigned)
      exact ⟨request, by rw [Function.update_of_ne hworker, hassigned]⟩
    · exact ⟨request, by rw [Function.update_self, hnew]⟩
  distinct := by
    have hnone : ∀ other one two task, other ≠ worker → new = some one →
        assigned other = some two → one.task = some task → two.task ≠ some task := by
      intro other one two task hworker hnew hother hone htwo
      rcases hdistinct one task hnew hone with hkept | hfree
      · obtain ⟨previous, hprevious, htask⟩ := Option.bind_eq_some_iff.mp hkept
        exact hworker (h.distinct other worker two previous task hother
          (hold.trans hprevious) htwo htask)
      · exact hfree other two hother htwo
    intro first second one two task hfirst hsecond hone htwo
    rw [Function.update_apply] at hfirst hsecond
    split at hfirst
    · split at hsecond
      · rename_i hleft hright
        exact hleft.trans hright.symm
      · rename_i hworker
        exact absurd htwo (hnone second one two task hworker hfirst hsecond hone)
    · rename_i hworker
      split at hsecond
      · exact absurd hone (hnone first two one task hworker hsecond hfirst htwo)
      · exact h.distinct first second one two task hfirst hsecond hone htwo

/-- Only the worker whose assignment changed can become forgotten. -/
theorem forgotten_reassign {worker other : ω} {new : Option (Assignment ρ μ)}
    (hactive : ∀ task other, other ≠ worker → active task = some other →
      active' task = some other) {request : ρ} {task : μ}
    (h : Forgotten active' (Function.update assigned worker new) other request task) :
    Forgotten active assigned other request task ∨
      other = worker ∧ new = some (.active request task) := by
  obtain ⟨hassigned, hunknown⟩ := h
  by_cases hworker : other = worker
  · rw [hworker, Function.update_self] at hassigned
    exact Or.inr ⟨hworker, hassigned⟩
  · rw [Function.update_of_ne hworker] at hassigned
    exact Or.inl ⟨hassigned, fun hknown =>
      hunknown (hactive task other hworker hknown)⟩

/-! ## Release -/

variable [DecidableEq μ]

/-- The tasks under way after a worker let go of its assignment. -/
def closed (active : μ → Option ω) (worker : ω) : Assignment ρ μ → μ → Option ω
  | .active _ task =>
    if active task = some worker then Function.update active task none else active
  | _ => active

theorem closed_eq_some {worker other : ω} {assignment : Assignment ρ μ} {task : μ}
    (h : assignment.closed active worker task = some other) :
    active task = some other := by
  unfold closed at h
  split at h
  · split at h
    · rw [Function.update_apply] at h
      split at h
      · cases h
      · exact h
    · exact h
  · exact h

/-- Other workers' tasks stay under way. -/
theorem closed_of_ne {worker other : ω} {assignment : Assignment ρ μ} {task : μ}
    (hne : other ≠ worker) (h : active task = some other) :
    assignment.closed active worker task = some other := by
  unfold closed
  split
  · split
    · rename_i hworker
      rw [Function.update_apply, if_neg, h]
      rintro rfl
      exact hne (Option.some.inj (h.symm.trans hworker))
    · exact h
  · exact h

theorem forgotten_release {worker other : ω} {assignment : Assignment ρ μ}
    {new : Option (Assignment ρ μ)} (hnew : new.bind Assignment.task = none)
    {request : ρ} {task : μ}
    (h : Forgotten (assignment.closed active worker)
      (Function.update assigned worker new) other request task) :
    Forgotten active assigned other request task := by
  rcases forgotten_reassign (fun _ _ => closed_of_ne) h with hbefore | ⟨-, rfl⟩
  · exact hbefore
  · cases hnew

variable [DecidableEq ρ]

/-- The requests waited for after a worker let go of its assignment. -/
def released (pending : ρ → Option μ) : Assignment ρ μ → ρ → Option μ
  | .reserved request _ => Function.update pending request none
  | _ => pending

/-- A worker lets go of whatever it is assigned to. -/
theorem Linked.release (h : Linked pending active assigned) {worker : ω}
    {assignment : Assignment ρ μ} (hold : assigned worker = some assignment)
    {new : Option (Assignment ρ μ)} (hnew : new.bind Assignment.task = none) :
    Linked (assignment.released pending) (assignment.closed active worker)
      (Function.update assigned worker new) := by
  have hidle : ∀ other task, new = some other → other.task ≠ some task := by
    rintro other task rfl htask
    rw [Option.bind_some, htask] at hnew
    cases hnew
  refine h.reassign hold ?_ ?_ ?_
  · intro request task
    have hnone : new ≠ some (.reserved request task) := fun heq =>
      hidle _ task heq rfl
    simp only [hnone, or_false]
    cases assignment with
    | reserved held matched =>
      change Function.update pending held none request = some task ↔ _
      rw [Function.update_apply]
      have hmatched := (h.pending held matched).mpr ⟨worker, hold⟩
      split
      · rename_i heq
        subst heq
        rw [hmatched]
        simp
      · rename_i hne
        simp [Ne.symm hne]
    | _ => simp [released]
  · intro task other hother
    have hbefore := closed_eq_some hother
    refine Or.inl ⟨hbefore, ?_⟩
    rintro request heq
    obtain rfl := Option.some.inj heq
    obtain ⟨otherRequest, hassigned⟩ := h.active task other hbefore
    obtain rfl := h.distinct other worker _ _ task hassigned hold rfl rfl
    rw [closed, if_pos hbefore, Function.update_self] at hother
    cases hother
  · intro other task heq htask
    exact absurd htask (hidle other task heq)

end Assignment
