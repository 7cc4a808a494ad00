import SurvivalArena.Framework.Numerals

/-!
# Shortcuts along a route

From each point of a route the last visible one of those that follow is the next.
-/

namespace Shortcut

variable {P : Type} (visible : P → P → Bool)

/-- The last of some points that is visible, with those that follow it. -/
def lastVisible (current : P) : List P → Option (P × List P)
  | [] => none
  | point :: rest =>
    match lastVisible current rest with
    | some found => some found
    | none => if visible current point then some (point, rest) else none

variable {visible} {current : P} {points : List P}

theorem lastVisible_none : lastVisible visible current points = none ↔
    ∀ point ∈ points, visible current point = false := by
  induction points with
  | nil => simp [lastVisible]
  | cons point rest ih =>
    rw [List.forall_mem_cons, ← ih]
    cases hrest : lastVisible visible current rest with
    | none => simp [lastVisible, hrest]
    | some found => simp [lastVisible, hrest]

theorem lastVisible_some {point : P} {after : List P}
    (h : lastVisible visible current points = some (point, after)) :
    visible current point = true ∧ (∀ later ∈ after, visible current later = false) ∧
      ∃ before, points = before ++ point :: after := by
  induction points with
  | nil => exact absurd h (by simp [lastVisible])
  | cons first rest ih =>
    cases hrest : lastVisible visible current rest with
    | none =>
      simp only [lastVisible, hrest, Option.ite_none_right_eq_some, Option.some.injEq,
        Prod.mk.injEq] at h
      obtain ⟨hvisible, rfl, rfl⟩ := h
      exact ⟨hvisible, lastVisible_none.mp hrest, [], rfl⟩
    | some found =>
      simp only [lastVisible, hrest, Option.some.injEq] at h
      obtain ⟨hvisible, hlater, before, hbefore⟩ := ih (hrest.trans (congrArg some h))
      exact ⟨hvisible, hlater, first :: before, by rw [hbefore, List.cons_append]⟩

theorem lastVisible_append {point : P} {before after : List P}
    (hvisible : visible current point = true)
    (hlater : ∀ later ∈ after, visible current later = false) :
    lastVisible visible current (before ++ point :: after) = some (point, after) := by
  induction before with
  | nil => simp [lastVisible, lastVisible_none.mpr hlater, hvisible]
  | cons first before ih => simp [lastVisible, ih]

theorem length_lastVisible {point : P} {after : List P}
    (h : lastVisible visible current points = some (point, after)) :
    after.length < points.length := by
  obtain ⟨-, -, before, rfl⟩ := lastVisible_some h
  simp only [List.length_append, List.length_cons]
  omega

theorem mem_of_lastVisible {point : P} {after : List P}
    (h : lastVisible visible current points = some (point, after)) :
    ∀ later ∈ after, later ∈ points := by
  obtain ⟨-, -, before, rfl⟩ := lastVisible_some h
  intro later hlater
  exact List.mem_append_right _ (List.mem_cons_of_mem _ hlater)

variable (visible) (safe : P → P)

/-- The points that are left of a route; where none is visible, a safe one stands for the
next. -/
def smooth (current : P) : List P → List P
  | [] => []
  | next :: rest =>
    match h : lastVisible visible current (next :: rest) with
    | some (point, after) => point :: smooth point after
    | none =>
      let pushed := if visible current next then next else safe next
      pushed :: smooth pushed rest
termination_by points => points.length
decreasing_by
  · exact length_lastVisible h
  · simp

/-- From each point that the last visible ones lead to, a later one is visible. -/
inductive Guided : P → List P → Prop
  | arrived (current : P) : Guided current []
  | onward {current point : P} {before after : List P} (hvisible : visible current point = true)
      (hlater : ∀ later ∈ after, visible current later = false) (hnext : Guided point after) :
      Guided current (before ++ point :: after)

variable {visible safe}

theorem smooth_nil : smooth visible safe current [] = [] := by
  rw [smooth]

theorem smooth_some {point : P} {after : List P}
    (h : lastVisible visible current points = some (point, after)) :
    smooth visible safe current points = point :: smooth visible safe point after := by
  cases points with
  | nil => exact absurd h (by simp [lastVisible])
  | cons next rest =>
    rw [smooth]
    split
    next found others hfound =>
      obtain ⟨rfl, rfl⟩ := Prod.mk.inj (Option.some.inj (hfound.symm.trans h))
      rfl
    next hnone => exact absurd (hnone.symm.trans h) (by simp)

theorem smooth_none {next : P} {rest : List P}
    (h : ∀ point ∈ next :: rest, visible current point = false) :
    smooth visible safe current (next :: rest) =
      safe next :: smooth visible safe (safe next) rest := by
  have hnone := lastVisible_none.mpr h
  rw [smooth]
  split
  next found others hfound => exact absurd (hnone.symm.trans hfound) (by simp)
  next => simp [h next List.mem_cons_self]

theorem guided_some {point : P} {after : List P}
    (h : lastVisible visible current points = some (point, after)) :
    Guided visible current points ↔ Guided visible point after := by
  obtain ⟨hvisible, hlater, before, hpoints⟩ := lastVisible_some h
  constructor
  · intro hguided
    cases hguided with
    | arrived => exact absurd h (by simp [lastVisible])
    | onward hvisible' hlater' hnext =>
      rw [lastVisible_append hvisible' hlater'] at h
      obtain ⟨rfl, rfl⟩ := Prod.mk.inj (Option.some.inj h)
      exact hnext
  · intro hguided
    rw [hpoints]
    exact .onward hvisible hlater hguided

theorem not_guided_none {next : P} {rest : List P}
    (h : ∀ point ∈ next :: rest, visible current point = false) :
    ¬ Guided visible current (next :: rest) := by
  have hnone := lastVisible_none.mpr h
  intro hguided
  generalize hpoints : next :: rest = points at hguided hnone
  cases hguided with
  | arrived => exact absurd hpoints (by simp)
  | onward hvisible hlater hnext =>
    rw [lastVisible_append hvisible hlater] at hnone
    exact absurd hnone (by simp)

/-- The walk along what is left sees its way exactly where the route is guided. -/
theorem isChain_smooth (hsafe : ∀ point ∈ points, safe point = point) :
    (current :: smooth visible safe current points).IsChain (fun p q => visible p q = true) ↔
      Guided visible current points := by
  induction hn : points.length using Nat.strong_induction_on generalizing current points with
  | _ n ih =>
    cases points with
    | nil => simpa [smooth_nil] using Guided.arrived current
    | cons next rest =>
      cases hfound : lastVisible visible current (next :: rest) with
      | none =>
        have hblind := lastVisible_none.mp hfound
        rw [smooth_none hblind, hsafe next List.mem_cons_self]
        have hnext := hblind next List.mem_cons_self
        simp [not_guided_none hblind, hnext]
      | some found =>
        obtain ⟨point, after⟩ := found
        obtain ⟨hvisible, -⟩ := lastVisible_some hfound
        have hlength := length_lastVisible hfound
        have hsafe' : ∀ later ∈ after, safe later = later := by
          intro later hmem
          exact hsafe later (mem_of_lastVisible hfound later hmem)
        rw [smooth_some hfound, guided_some hfound, ← ih after.length (by omega) hsafe' rfl]
        simp [hvisible]

/-- The last point is kept. -/
theorem getLast_smooth (hsafe : ∀ point ∈ points, safe point = point) :
    (smooth visible safe current points).getLast? = points.getLast? := by
  induction hn : points.length using Nat.strong_induction_on generalizing current points with
  | _ n ih =>
    cases points with
    | nil => simp [smooth_nil]
    | cons next rest =>
      cases hfound : lastVisible visible current (next :: rest) with
      | none =>
        have hblind := lastVisible_none.mp hfound
        have hlength : rest.length < n := by
          simp only [List.length_cons] at hn
          omega
        have hrest : (smooth visible safe next rest).getLast? = rest.getLast? :=
          ih rest.length hlength (fun point hmem => hsafe point (List.mem_cons_of_mem _ hmem)) rfl
        rw [smooth_none hblind, hsafe next List.mem_cons_self, List.getLast?_cons,
          List.getLast?_cons, hrest]
      | some found =>
        obtain ⟨point, after⟩ := found
        obtain ⟨-, -, before, hpoints⟩ := lastVisible_some hfound
        have hlength := length_lastVisible hfound
        have hsafe' : ∀ later ∈ after, safe later = later := by
          intro later hmem
          exact hsafe later (mem_of_lastVisible hfound later hmem)
        have hrest : (smooth visible safe point after).getLast? = after.getLast? :=
          ih after.length (by omega) hsafe' rfl
        rw [smooth_some hfound, hpoints, List.getLast?_append, List.getLast?_cons,
          List.getLast?_cons, hrest]
        simp

end Shortcut
