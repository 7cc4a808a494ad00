import SurvivalArena.Framework.Aligned

/-!
# Exceptions

The standard exception classes the source throws, with their texts.  A
function that can throw returns `Except Exception`; one that can throw after
changing its object returns the object next to the outcome.
-/

namespace SurvivalArena

inductive Exception where
  | invalidArgument (what : String)
  | outOfRange (what : String)
  | lengthError (what : String)
  | logicError (what : String)
  | overflowError (what : String)
  | runtimeError (what : String)
deriving DecidableEq

/-- Throw `e` when `c` holds. -/
def throwIf (c : Bool) (e : Exception) : Except Exception Unit :=
  if c then .error e else .ok ()

@[simp]
theorem throwIf_eq_ok {c : Bool} {e : Exception} {u : Unit} :
    throwIf c e = .ok u ↔ c = false := by
  cases c <;> simp [throwIf]

theorem throwIf_bind_eq_ok {α : Type} {c : Bool} {e : Exception}
    {next : Unit → Except Exception α} {a : α} :
    (throwIf c e >>= next) = .ok a ↔ c = false ∧ next () = .ok a := by
  cases c <;> simp [throwIf, bind, Except.bind]

/-- The rest of a method with the value of a step, or the object as it is and the
step's exception. -/
def attempt {σ α β : Type} (object : σ) (step : Except Exception α)
    (next : α → σ × Except Exception β) : σ × Except Exception β :=
  match step with
  | .error e => (object, .error e)
  | .ok a => next a

@[simp]
theorem attempt_ok {σ α β : Type} (object : σ) (a : α)
    (next : α → σ × Except Exception β) :
    attempt object (.ok a) next = next a :=
  rfl

@[simp]
theorem attempt_error {σ α β : Type} (object : σ) (e : Exception)
    (next : α → σ × Except Exception β) :
    attempt object (.error e) next = (object, .error e) :=
  rfl

/-- What holds of the object and of every outcome of the rest holds after a
step. -/
theorem attempt_induct {σ α β : Type} {object : σ} {step : Except Exception α}
    {next : α → σ × Except Exception β} {P : σ × Except Exception β → Prop}
    (hthrow : ∀ e, step = .error e → P (object, .error e))
    (hnext : ∀ a, step = .ok a → P (next a)) :
    P (attempt object step next) := by
  cases hstep : step with
  | error e => exact hthrow e hstep
  | ok a => exact hnext a hstep

/-- What holds of the object before and after the rest, whatever the outcome. -/
theorem attempt_object {σ α β : Type} {P : σ → Prop} {object : σ} {step : Except Exception α}
    {next : α → σ × Except Exception β} (hobject : P object)
    (hnext : ∀ a, step = .ok a → P (next a).1) : P (attempt object step next).1 := by
  cases hstep : step with
  | error e => exact hobject
  | ok a => exact hnext a hstep

/-- A reading of the object that the rest does not change. -/
theorem attempt_keeps {σ α β γ : Type} (reading : σ → γ) {value : γ} {object : σ}
    {step : Except Exception α} {next : α → σ × Except Exception β}
    (hobject : reading object = value) (hnext : ∀ a, reading (next a).1 = value) :
    reading (attempt object step next).1 = value := by
  cases step with
  | error e => exact hobject
  | ok a => exact hnext a

/-- A method returns where its step does and its rest does. -/
theorem attempt_eq_ok {σ α β : Type} {object final : σ} {step : Except Exception α}
    {next : α → σ × Except Exception β} {b : β} :
    attempt object step next = (final, .ok b) ↔
      ∃ a, step = .ok a ∧ next a = (final, .ok b) := by
  cases step <;> simp

theorem except_bind_eq_ok {ε α β : Type} {x : Except ε α}
    {next : α → Except ε β} {b : β} :
    (x >>= next) = .ok b ↔ ∃ a, x = .ok a ∧ next a = .ok b := by
  cases x <;> simp [bind, Except.bind]

/-- Mapping steps that all succeed succeeds. -/
theorem except_mapM_exists {ε α β : Type} {f : α → Except ε β} {as : List α}
    (h : ∀ a ∈ as, ∃ b, f a = .ok b) : ∃ bs, as.mapM f = .ok bs := by
  induction as with
  | nil => exact ⟨[], rfl⟩
  | cons a as ih =>
    obtain ⟨b, hb⟩ := h a List.mem_cons_self
    obtain ⟨bs, hbs⟩ := ih fun other hother =>
      h other (List.mem_cons_of_mem a hother)
    refine ⟨b :: bs, ?_⟩
    rw [List.mapM_cons, hb, hbs]
    rfl

/-- Mapping steps whose values are known yields these values. -/
theorem except_mapM_ok {ε α β : Type} {f : α → Except ε β} {g : α → β}
    {as : List α} (h : ∀ a ∈ as, f a = .ok (g a)) : as.mapM f = .ok (as.map g) := by
  induction as with
  | nil => rfl
  | cons a as ih =>
    have htail := ih fun other hother => h other (List.mem_cons_of_mem a hother)
    rw [List.mapM_cons, h a List.mem_cons_self, htail]
    rfl

/-- The values of a mapping that succeeded are those of the steps. -/
theorem except_mapM_forall₂ {ε α β : Type} {f : α → Except ε β} {as : List α} {bs : List β}
    (h : as.mapM f = .ok bs) : List.Forall₂ (fun a b => f a = .ok b) as bs := by
  induction as generalizing bs with
  | nil =>
    cases h
    exact .nil
  | cons a as ih =>
    rw [List.mapM_cons] at h
    obtain ⟨first, hfirst, h⟩ := except_bind_eq_ok.mp h
    obtain ⟨rest, hrest, h⟩ := except_bind_eq_ok.mp h
    cases h
    exact .cons hfirst (ih hrest)

/-- Steps whose values are known one by one yield these values. -/
theorem except_mapM_of_forall₂ {ε α β : Type} {f : α → Except ε β} {as : List α} {bs : List β}
    (h : List.Forall₂ (fun a b => f a = .ok b) as bs) : as.mapM f = .ok bs := by
  induction h with
  | nil => rfl
  | cons hhead htail ih =>
    rw [List.mapM_cons, hhead, ih]
    rfl

/-- Every value of a mapping that succeeded is the value of a step. -/
theorem except_mapM_mem {ε α β : Type} {f : α → Except ε β} {as : List α} {bs : List β}
    (h : as.mapM f = .ok bs) {b : β} (hb : b ∈ bs) : ∃ a ∈ as, f a = .ok b :=
  Aligned.mem_right (except_mapM_forall₂ h) hb

theorem except_mapM_length {ε α β : Type} {f : α → Except ε β} {as : List α}
    {bs : List β} (h : as.mapM f = .ok bs) : bs.length = as.length :=
  (except_mapM_forall₂ h).length_eq.symm

/-- An outcome without a value is an exception. -/
theorem except_eq_error {ε α : Type} {x : Except ε α} (h : x.toOption.isNone = true) :
    ∃ e, x = .error e := by
  cases x with
  | error e => exact ⟨e, rfl⟩
  | ok a => cases h

/-- An outcome whose value passes a test. -/
theorem except_any {ε α : Type} {x : Except ε α} {p : α → Bool}
    (h : x.toOption.any p = true) : ∃ a, x = .ok a ∧ p a = true := by
  cases x with
  | error e => cases h
  | ok a => exact ⟨a, rfl, h⟩

theorem except_toOption_join {ε α : Type} {x : Except ε (Option α)} {a : α}
    (h : x.toOption.join = some a) : x = .ok (some a) := by
  cases x with
  | error e => cases h
  | ok value => exact congrArg Except.ok h

/-- An outcome is its value where it has one. -/
theorem except_eq_ok_get {ε α : Type} {x : Except ε α}
    (h : x.toOption.isSome = true) : x = .ok (x.toOption.get h) := by
  cases x with
  | error e => cases h
  | ok a => rfl

end SurvivalArena
