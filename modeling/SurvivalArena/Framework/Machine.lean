import SurvivalArena.Framework.Numerals

/-!
# Event machines

A machine takes one step for each event.  What its steps keep, under a condition
on the events, holds after every sequence of such events.
-/

namespace Machine

variable {σ ε : Type}

/-- The state after a sequence of events. -/
def run (step : σ → ε → σ) (state : σ) (events : List ε) : σ :=
  events.foldl step state

variable {step : σ → ε → σ}

@[simp]
theorem run_nil (state : σ) : run step state [] = state :=
  rfl

@[simp]
theorem run_cons (state : σ) (event : ε) (events : List ε) :
    run step state (event :: events) = run step (step state event) events :=
  rfl

theorem run_append (state : σ) (first second : List ε) :
    run step state (first ++ second) = run step (run step state first) second :=
  List.foldl_append

/-- The invariant rule. -/
theorem run_invariant {I : σ → Prop} {P : ε → Prop}
    (hstep : ∀ state event, P event → I state → I (step state event))
    {state : σ} (hstate : I state) {events : List ε}
    (hevents : ∀ event ∈ events, P event) : I (run step state events) := by
  induction events generalizing state with
  | nil => exact hstate
  | cons event events ih =>
    have hhead := hevents event List.mem_cons_self
    have htail : ∀ later ∈ events, P later := fun later hlater =>
      hevents later (List.mem_cons_of_mem event hlater)
    exact ih (hstep state event hhead hstate) htail

/-- Every step of a run meets a condition on the state before it. -/
def Meets (step : σ → ε → σ) (condition : σ → ε → Prop) (state : σ) : List ε → Prop
  | [] => True
  | event :: events =>
    condition state event ∧ Meets step condition (step state event) events

instance decidableMeets {condition : σ → ε → Prop}
    [∀ state event, Decidable (condition state event)] (state : σ) :
    (events : List ε) → Decidable (Meets step condition state events)
  | [] => inferInstanceAs (Decidable True)
  | event :: events =>
    have : Decidable (Meets step condition (step state event) events) :=
      decidableMeets (step state event) events
    inferInstanceAs (Decidable (condition state event ∧
      Meets step condition (step state event) events))

/-- The invariant rule for runs whose steps all meet a condition. -/
theorem run_invariant_of_meets {I : σ → Prop} {condition : σ → ε → Prop}
    (hstep : ∀ state event, condition state event → I state → I (step state event))
    {state : σ} (hstate : I state) {events : List ε}
    (hevents : Meets step condition state events) : I (run step state events) := by
  induction events generalizing state with
  | nil => exact hstate
  | cons event events ih =>
    exact ih (hstep state event hevents.1 hstate) hevents.2

/-- Two conditions that agree under an invariant which the first one keeps. -/
theorem meets_iff_of_invariant {I : σ → Prop} {first second : σ → ε → Prop}
    (hiff : ∀ state event, I state → (first state event ↔ second state event))
    (hstep : ∀ state event, I state → first state event → I (step state event))
    {state : σ} (hstate : I state) {events : List ε} :
    Meets step first state events ↔ Meets step second state events := by
  induction events generalizing state with
  | nil => exact Iff.rfl
  | cons event events ih =>
    constructor
    · rintro ⟨hhead, htail⟩
      exact ⟨(hiff state event hstate).mp hhead, (ih (hstep state event hstate hhead)).mp htail⟩
    · rintro ⟨hhead, htail⟩
      have hfirst := (hiff state event hstate).mpr hhead
      exact ⟨hfirst, (ih (hstep state event hstate hfirst)).mpr htail⟩

/-- A condition that gives another one under an invariant, which it keeps. -/
theorem Meets.mono {I : σ → Prop} {first second : σ → ε → Prop}
    (hnext : ∀ state event, I state → first state event →
      second state event ∧ I (step state event))
    {state : σ} (hstate : I state) {events : List ε} (hevents : Meets step first state events) :
    Meets step second state events := by
  induction events generalizing state with
  | nil => trivial
  | cons event events ih =>
    obtain ⟨hsecond, hnextState⟩ := hnext state event hstate hevents.1
    exact ⟨hsecond, ih hnextState hevents.2⟩

theorem meets_append {condition : σ → ε → Prop} {state : σ} {first second : List ε} :
    Meets step condition state (first ++ second) ↔
      Meets step condition state first ∧
        Meets step condition (run step state first) second := by
  induction first generalizing state with
  | nil => exact ⟨fun h => ⟨trivial, h⟩, fun h => h.2⟩
  | cons event first ih =>
    rw [List.cons_append, Meets, Meets, ih, run_cons, and_assoc]

/-- The invariant rule for events that request names, each at most once: the
invariant may speak about the names used so far. -/
theorem run_fresh {ρ : Type} {request : ε → Option ρ} {I : List ρ → σ → Prop}
    (hstep : ∀ used state event, (∀ name ∈ request event, name ∉ used) →
      I used state → I (used ++ (request event).toList) (step state event))
    {used : List ρ} {state : σ} (hstate : I used state) {events : List ε}
    (hnodup : (used ++ events.filterMap request).Nodup) :
    I (used ++ events.filterMap request) (run step state events) := by
  induction events generalizing used state with
  | nil =>
    rw [List.filterMap_nil, List.append_nil]
    exact hstate
  | cons event events ih =>
    have hnames : (event :: events).filterMap request =
        (request event).toList ++ events.filterMap request := by
      cases h : request event with
      | none => rw [List.filterMap_cons_none h]; rfl
      | some name => rw [List.filterMap_cons_some h]; rfl
    rw [hnames, ← List.append_assoc] at hnodup ⊢
    have hfresh : ∀ name ∈ request event, name ∉ used := by
      intro name hname hused
      have hused' := (List.nodup_append.mp hnodup).1
      exact (List.nodup_append.mp hused').2.2 name hused name
        (Option.mem_toList.mpr hname) rfl
    exact ih (hstep used state event hfresh hstate) hnodup

/-! ## Machines that reply -/

section Replies

variable {ο : Type}

/-- The state after a sequence of events of a machine that replies to each. -/
def after (respond : σ → ε → σ × ο) (state : σ) (events : List ε) : σ :=
  run (fun state event => (respond state event).1) state events

/-- The replies to a sequence of events. -/
def replies (respond : σ → ε → σ × ο) (state : σ) : List ε → List ο
  | [] => []
  | event :: events =>
    (respond state event).2 :: replies respond (respond state event).1 events

variable {respond : σ → ε → σ × ο}

@[simp]
theorem after_nil (state : σ) : after respond state [] = state :=
  rfl

@[simp]
theorem after_cons (state : σ) (event : ε) (events : List ε) :
    after respond state (event :: events) =
      after respond (respond state event).1 events :=
  rfl

theorem after_append (state : σ) (first second : List ε) :
    after respond state (first ++ second) =
      after respond (after respond state first) second :=
  run_append state first second

theorem replies_append (state : σ) (first second : List ε) :
    replies respond state (first ++ second) =
      replies respond state first ++
        replies respond (after respond state first) second := by
  induction first generalizing state with
  | nil => rfl
  | cons event events ih =>
    rw [List.cons_append, replies, ih, replies, List.cons_append, after_cons]

/-- The invariant rule with a history: the invariant may speak about the events
and the replies so far. -/
theorem after_invariant {I : List ε → List ο → σ → Prop}
    (hstep : ∀ events outputs state event, I events outputs state →
      I (events ++ [event]) (outputs ++ [(respond state event).2])
        (respond state event).1)
    {events : List ε} {outputs : List ο} {state : σ} (hstate : I events outputs state)
    (later : List ε) :
    I (events ++ later) (outputs ++ replies respond state later)
      (after respond state later) := by
  induction later generalizing events outputs state with
  | nil =>
    rw [List.append_nil, replies, List.append_nil]
    exact hstate
  | cons event later ih =>
    have hnext := ih (hstep events outputs state event hstate)
    rw [List.append_assoc, List.append_assoc] at hnext
    exact hnext

end Replies

end Machine

/-! ## What the steps of a run yield

Each step of a machine yields some things, and a run yields those of its steps in order.
Two accounts of a run agree at every time exactly where they agree on every step.
-/

namespace Machine

variable {σ ε ο : Type} {step : σ → ε → σ}

/-- What the steps of a run yield, in order. -/
def yields (step : σ → ε → σ) (yield : σ → ε → List ο) (state : σ) : List ε → List ο
  | [] => []
  | event :: events => yield state event ++ yields step yield (step state event) events

/-- Two accounts agree at every time exactly where they agree on every step. -/
theorem yields_agree_iff {first second : σ → ε → List ο} {state : σ} {events : List ε} :
    (∀ early, early <+: events → yields step first state early = yields step second state early) ↔
      Meets step (fun state event => first state event = second state event) state events := by
  induction events generalizing state with
  | nil =>
    simp only [Meets, iff_true]
    intro early hearly
    rw [List.prefix_nil.mp hearly]
    rfl
  | cons event events ih =>
    rw [Meets, ← ih]
    constructor
    · intro hagree
      have hstep : first state event = second state event := by
        simpa [yields] using hagree [event] (by simp)
      refine ⟨hstep, ?_⟩
      intro early hearly
      have hlonger := hagree (event :: early) (by simpa using hearly)
      simpa [yields, hstep] using hlonger
    · intro hagree early hearly
      obtain ⟨hstep, hlater⟩ := hagree
      cases early with
      | nil => rfl
      | cons other early =>
        obtain ⟨rfl, hrest⟩ := List.cons_prefix_cons.mp hearly
        rw [yields, yields, hstep, hlater early hrest]

end Machine
