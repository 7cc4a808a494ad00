import SurvivalArena.Framework.Numerals

/-!
# Mutually inverse partial functions

Two indexes over the same pairs, one by each component, and the updates that
keep them inverse to each other.
-/

variable {κ α β : Type}

/-- The part of each value that `part` picks. -/
def project (f : κ → Option α) (part : α → Option β) (key : κ) : Option β :=
  (f key).bind part

theorem project_update [DecidableEq κ] (f : κ → Option α) (part : α → Option β)
    (key : κ) (value : Option α) :
    project (Function.update f key value) part =
      Function.update (project f part) key (value.bind part) := by
  funext other
  rw [project, Function.update_apply, Function.update_apply]
  by_cases h : other = key
  · rw [if_pos h, if_pos h]
  · rw [if_neg h, if_neg h]
    rfl

/-- An update that keeps the part picked leaves the projection as it is. -/
theorem project_update_self [DecidableEq κ] (f : κ → Option α)
    (part : α → Option β) {key : κ} {value : Option α}
    (h : value.bind part = (f key).bind part) :
    project (Function.update f key value) part = project f part := by
  rw [project_update, h]
  exact Function.update_eq_self key _

/-- `f` maps a key to a value exactly when `g` maps the value to the key. -/
def Inverse (f : κ → Option α) (g : α → Option κ) : Prop :=
  ∀ key value, f key = some value ↔ g value = some key

namespace Inverse

variable {f : κ → Option α} {g : α → Option κ}

theorem injective (h : Inverse f g) {first second : κ} {value : α}
    (hfirst : f first = some value) (hsecond : f second = some value) :
    first = second := by
  have hg := (h first value).mp hfirst
  rw [(h second value).mp hsecond] at hg
  exact (Option.some.inj hg).symm

variable [DecidableEq α]

/-- A value that no key maps to can be cleared. -/
theorem update_none (h : Inverse f g) {value : α} (hvalue : g value = none) :
    Inverse f (Function.update g value none) := by
  rw [← hvalue, Function.update_eq_self]
  exact h

variable [DecidableEq κ]

/-- A new pair enters both indexes. -/
theorem insert (h : Inverse f g) {key : κ} {value : α} (hkey : f key = none)
    (hvalue : g value = none) :
    Inverse (Function.update f key (some value))
      (Function.update g value (some key)) := by
  intro k v
  rw [Function.update_apply, Function.update_apply]
  by_cases hk : k = key
  · by_cases hv : v = value
    · simp [hk, hv]
    · have hne : g v ≠ some key := by
        intro hg
        rw [(h key v).mpr hg] at hkey
        cases hkey
      simp [hk, hv, Ne.symm hv, hne]
  · by_cases hv : v = value
    · have hne : f k ≠ some value := by
        intro hf
        rw [(h k value).mp hf] at hvalue
        cases hvalue
      simp [hk, hv, Ne.symm hk, hne]
    · simp only [hk, hv, if_false]
      exact h k v

/-- A pair leaves both indexes. -/
theorem erase (h : Inverse f g) {key : κ} {value : α}
    (hpair : f key = some value) :
    Inverse (Function.update f key none) (Function.update g value none) := by
  intro k v
  rw [Function.update_apply, Function.update_apply]
  by_cases hk : k = key
  · have hne : v ≠ value → g v ≠ some key := by
      intro hv hg
      have hf := (h key v).mpr hg
      rw [hpair] at hf
      exact hv (Option.some.inj hf).symm
    by_cases hv : v = value
    · simp [hk, hv]
    · simp [hk, hv, hne hv]
  · have hne : v = value → f k ≠ some v := by
      intro hv hf
      rw [hv] at hf
      exact hk (h.injective hf hpair)
    by_cases hv : v = value
    · simp [hk, hv, hv ▸ hne hv]
    · simp only [hk, hv, if_false]
      exact h k v

end Inverse
