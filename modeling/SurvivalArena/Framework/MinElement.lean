import SurvivalArena.Framework.Numerals

/-!
# Least elements

The search for a least element of a list: of a least distance, or by any comparison.
-/

/-! ## The nearest of some points

The search for a least distance that starts from a bound, and keeps the first of several
points at the same distance.
-/

namespace Nearest

variable {P K : Type} [LinearOrder K] (distance : P → K)

def closer (nearest : P × K) (point : P) : P × K :=
  if distance point < nearest.2 then (point, distance point) else nearest

/-- The search ends with the start, where no point is nearer, or with a point that is
nearer than the start and no farther than the others. -/
theorem foldl_closer (points : List P) (start : P × K) :
    (points.foldl (closer distance) start = start ∧ ∀ point ∈ points, start.2 ≤ distance point) ∨
      ∃ point ∈ points, points.foldl (closer distance) start = (point, distance point) ∧
        distance point < start.2 ∧ ∀ other ∈ points, distance point ≤ distance other := by
  induction points generalizing start with
  | nil => exact .inl ⟨rfl, fun _ hmem => absurd hmem List.not_mem_nil⟩
  | cons first points ih =>
    rw [List.foldl_cons]
    by_cases hfirst : distance first < start.2
    · have hnext : closer distance start first = (first, distance first) := if_pos hfirst
      rw [hnext]
      rcases ih (first, distance first) with ⟨hsame, hfar⟩ | ⟨point, hmem, hfound, hless, hfar⟩
      · refine .inr ⟨first, List.mem_cons_self, hsame, hfirst, ?_⟩
        intro other hother
        rcases List.mem_cons.mp hother with rfl | hother
        · exact le_rfl
        · exact hfar other hother
      · refine .inr ⟨point, List.mem_cons_of_mem _ hmem, hfound, hless.trans hfirst, ?_⟩
        intro other hother
        rcases List.mem_cons.mp hother with rfl | hother
        · exact hless.le
        · exact hfar other hother
    · have hnext : closer distance start first = start := if_neg hfirst
      rw [hnext]
      rcases ih start with ⟨hsame, hfar⟩ | ⟨point, hmem, hfound, hless, hfar⟩
      · refine .inl ⟨hsame, ?_⟩
        intro other hother
        rcases List.mem_cons.mp hother with rfl | hother
        · exact not_lt.mp hfirst
        · exact hfar other hother
      · refine .inr ⟨point, List.mem_cons_of_mem _ hmem, hfound, hless, ?_⟩
        intro other hother
        rcases List.mem_cons.mp hother with rfl | hother
        · exact hless.le.trans (not_lt.mp hfirst)
        · exact hfar other hother

end Nearest

/-! ## The first element

The first element of a list that no later one precedes, for any comparison.
-/

variable {α : Type}

def minElement (before : α → α → Bool) : List α → Option α
  | [] => none
  | a :: as => some (as.foldl (fun best b => if before b best then b else best) a)

private theorem foldl_mem (before : α → α → Bool) (as : List α) (a : α) :
    as.foldl (fun best b => if before b best then b else best) a ∈ a :: as := by
  induction as generalizing a with
  | nil => exact List.mem_singleton_self a
  | cons b as ih =>
    rw [List.foldl_cons]
    split
    · exact List.mem_cons_of_mem a (ih b)
    · rcases List.mem_cons.mp (ih a) with h | h
      · rw [h]
        exact List.mem_cons_self
      · exact List.mem_cons_of_mem a (List.mem_cons_of_mem b h)

theorem minElement_mem {before : α → α → Bool} {as : List α} {a : α}
    (h : minElement before as = some a) : a ∈ as := by
  cases as with
  | nil => cases h
  | cons b as => exact Option.some.inj h ▸ foldl_mem before as b

theorem minElement_isSome {before : α → α → Bool} {as : List α} (h : as ≠ []) :
    ∃ a, minElement before as = some a := by
  cases as with
  | nil => exact absurd rfl h
  | cons b as => exact ⟨_, rfl⟩

private theorem foldl_prefers {before : α → α → Bool} {p : α → Prop}
    (hprefers : ∀ a b, p a → ¬p b → before a b = true)
    (hkeeps : ∀ a b, before a b = true → p b → p a) {as : List α} {a : α}
    (h : ∃ b ∈ a :: as, p b) :
    p (as.foldl (fun best b => if before b best then b else best) a) := by
  induction as generalizing a with
  | nil =>
    obtain ⟨b, hb, hp⟩ := h
    exact List.mem_singleton.mp hb ▸ hp
  | cons b as ih =>
    rw [List.foldl_cons]
    obtain ⟨c, hc, hp⟩ := h
    split
    · rename_i hbefore
      rcases List.mem_cons.mp hc with rfl | hc
      · exact ih ⟨b, List.mem_cons_self, hkeeps b c hbefore hp⟩
      · exact ih ⟨c, hc, hp⟩
    · rename_i hbefore
      rcases List.mem_cons.mp hc with rfl | hc
      · exact ih ⟨c, List.mem_cons_self, hp⟩
      · rcases List.mem_cons.mp hc with rfl | hc
        · by_cases hbest : p a
          · exact ih ⟨a, List.mem_cons_self, hbest⟩
          · exact absurd (hprefers c a hp hbest) hbefore
        · exact ih ⟨c, List.mem_cons_of_mem a hc, hp⟩

/-- A kind of elements that the comparison prefers. -/
theorem minElement_prefers {before : α → α → Bool} {p : α → Prop}
    (hprefers : ∀ a b, p a → ¬p b → before a b = true)
    (hkeeps : ∀ a b, before a b = true → p b → p a) {as : List α} {a : α}
    (h : minElement before as = some a) (hsome : ∃ b ∈ as, p b) : p a := by
  cases as with
  | nil => cases h
  | cons b as => exact Option.some.inj h ▸ foldl_prefers hprefers hkeeps hsome

/-- The least element of a ranking does not depend on the order of the list. -/
theorem minElement_perm {ρ : Type} [LinearOrder ρ] {rank : α → ρ} {before : α → α → Bool}
    (hbefore : ∀ a b, before a b = true ↔ rank a < rank b) {l l' : List α} (hperm : l.Perm l')
    (hranks : ∀ a ∈ l, ∀ b ∈ l, rank a = rank b → a = b) :
    minElement before l = minElement before l' := by
  have hleast : ∀ {as : List α} {least : α}, minElement before as = some least →
      ∀ a ∈ as, rank least ≤ rank a := fun {as least} hmin a ha =>
    minElement_prefers (p := fun b => rank b ≤ rank a)
      (fun b c hb hc => (hbefore b c).mpr (hb.trans_lt (not_le.mp hc)))
      (fun b c hb hc => ((hbefore b c).mp hb).le.trans hc) hmin ⟨a, ha, le_rfl⟩
  cases l with
  | nil => rw [hperm.nil_eq]
  | cons first rest =>
    obtain ⟨least, hmin⟩ : ∃ least, minElement before (first :: rest) = some least :=
      minElement_isSome (List.cons_ne_nil first rest)
    have hne : l' ≠ [] := by
      rintro rfl
      exact List.cons_ne_nil first rest hperm.eq_nil
    obtain ⟨least', hmin'⟩ : ∃ least, minElement before l' = some least := minElement_isSome hne
    have hmem := minElement_mem hmin
    have hmem' := hperm.mem_iff.mpr (minElement_mem hmin')
    have hsame : least = least' := hranks least hmem least' hmem'
      (le_antisymm (hleast hmin least' hmem') (hleast hmin' least (hperm.mem_iff.mp hmem)))
    rw [hmin, hmin', hsame]
