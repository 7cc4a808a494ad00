import SurvivalArena.Game.Skills

/-!
# The cooldown of skills

Casts of one skill, the start of its cooldown after each and the stamina they cost, over
runs whose accepted casts execute the skill.
-/

namespace SurvivalArena

open Machine

variable {K : Type} [Field K] [LinearOrder K]

/-! ## The order of casts and cooldowns -/

/-- No cast yet, a cast at a time whose cooldown has not started, or one whose cooldown ends
at a time. -/
inductive SkillPhase (K : Type) where
  | fresh
  | casting (time : K)
  | cooled (ready : K)

/-- After a cast the cooldown starts once and is over before the next. -/
inductive Unfolds : SkillPhase K → List (SkillRecord K) → SkillPhase K → Prop where
  | nil (phase : SkillPhase K) : Unfolds phase [] phase
  | early {time length : K} {records : List (SkillRecord K)} {final : SkillPhase K}
      (h : Unfolds .fresh records final) :
      Unfolds .fresh (.cooldownStart time length :: records) final
  | first {time : K} {records : List (SkillRecord K)} {final : SkillPhase K}
      (h : Unfolds (.casting time) records final) :
      Unfolds .fresh (.cast time :: records) final
  | started {castTime time length : K} {records : List (SkillRecord K)}
      {final : SkillPhase K} (htime : castTime ≤ time)
      (h : Unfolds (.cooled (time + max 0 length)) records final) :
      Unfolds (.casting castTime) (.cooldownStart time length :: records) final
  | again {ready time : K} {records : List (SkillRecord K)} {final : SkillPhase K}
      (hready : ready ≤ time) (h : Unfolds (.casting time) records final) :
      Unfolds (.cooled ready) (.cast time :: records) final

theorem Unfolds.append {phase middle final : SkillPhase K}
    {records later : List (SkillRecord K)} (h : Unfolds phase records middle)
    (hlater : Unfolds middle later final) : Unfolds phase (records ++ later) final := by
  induction h with
  | nil => exact hlater
  | early _ ih => exact .early (ih hlater)
  | first _ ih => exact .first (ih hlater)
  | started htime _ ih => exact .started htime (ih hlater)
  | again hready _ ih => exact .again hready (ih hlater)

section Apart

variable [IsStrictOrderedRing K]

/-- The least time at which a phase lets a cast come. -/
def SkillPhase.Before (phase : SkillPhase K) (time : K) : Prop :=
  match phase with
  | .fresh => True
  | .casting castTime => castTime ≤ time
  | .cooled ready => ready ≤ time

theorem Unfolds.before {phase final : SkillPhase K} {records : List (SkillRecord K)}
    (h : Unfolds phase records final) {time : K} (hcast : .cast time ∈ records) :
    phase.Before time := by
  induction h with
  | nil => cases hcast
  | early _ ih => trivial
  | first _ ih => trivial
  | @started castTime startTime length _ _ htime _ ih =>
    rcases List.mem_cons.mp hcast with heq | hmem
    · cases heq
    · have hready : startTime + max 0 length ≤ time := ih hmem
      have hlength : 0 ≤ max 0 length := le_max_left _ _
      show castTime ≤ time
      linarith
  | again hready _ ih =>
    rcases List.mem_cons.mp hcast with heq | hmem
    · cases heq
      exact hready
    · exact hready.trans (ih hmem)

/-- Between any two casts a cooldown starts whose length is no more than the time between
them. -/
def CastsApart (records : List (SkillRecord K)) : Prop :=
  ∀ before between later first second,
    records = before ++ .cast first :: between ++ .cast second :: later →
    ∃ time length, .cooldownStart time length ∈ between ∧ first + length ≤ second

theorem Unfolds.casting_apart {first second : K} {final : SkillPhase K}
    {between later : List (SkillRecord K)}
    (h : Unfolds (.casting first) (between ++ .cast second :: later) final) :
    ∃ time length, .cooldownStart time length ∈ between ∧ first + length ≤ second := by
  cases between with
  | nil => cases h
  | cons record between =>
    cases h with
    | @started _ time length _ _ htime hrest =>
      have hready : time + max 0 length ≤ second :=
        hrest.before (List.mem_append_right _ List.mem_cons_self)
      have hlength : length ≤ max 0 length := le_max_right _ _
      exact ⟨time, length, List.mem_cons_self, by linarith⟩

theorem Unfolds.castsApart {phase final : SkillPhase K} {records : List (SkillRecord K)}
    (h : Unfolds phase records final) : CastsApart records := by
  intro before between later first second hsplit
  induction before generalizing phase records with
  | nil =>
    subst hsplit
    cases h with
    | first hrest => exact hrest.casting_apart
    | again _ hrest => exact hrest.casting_apart
  | cons record before ih =>
    subst hsplit
    cases h with
    | early hrest => exact ih hrest rfl
    | first hrest => exact ih hrest rfl
    | started _ hrest => exact ih hrest rfl
    | again _ hrest => exact ih hrest rfl

end Apart

/-! ## The fields that tell the phase -/

/-- A class whose accepted cast ends in the start of the cooldown.  Bianca's Q never starts
it, her E has no cast of its own to start it after, her W starts it by the end of what it
plays, and her R with what it plays. -/
def SkillClass.startsCooldown : SkillClass K → Bool
  | .nicky => true
  | .biancaQ => false
  | .biancaW isPlaying _ _ _ => !isPlaying
  | .biancaE => false
  | .biancaR skillFlag _ _ _ => !skillFlag

/-- The classes whose skill an animation, a movement or a state ends. -/
def SkillClass.endsOutside : SkillClass K → Bool
  | .nicky => true
  | .biancaE => true
  | _ => false

/-- What the fields of a skill show of its phase. -/
def SkillPhase.Shown (skill : BaseSkill K) : SkillClass K → SkillPhase K → Prop
  | .nicky, .fresh => skill.castInProgress = false
  | .nicky, .casting _ => skill.castInProgress = true ∧ skill.cooldownStarted = false
  | .nicky, .cooled _ => skill.cooldownStarted = true
  | .biancaW isPlaying _ _ _, .casting _ => isPlaying = true
  | .biancaW isPlaying _ _ _, _ => isPlaying = false
  | .biancaR .., .casting _ => False
  | .biancaR .., _ => True
  | _, .fresh => True
  | _, _ => False

/-- What the clock and the cooldown show of a phase. -/
def SkillPhase.Due (clock cooldown : K) : SkillPhase K → Prop
  | .fresh => True
  | .casting time => time ≤ clock
  | .cooled ready => ready ≤ clock + max 0 cooldown

namespace PlayerSkill

structure Tracks (state : PlayerSkill K) (phase : SkillPhase K) : Prop where
  shown : phase.Shown state.skill state.skillClass
  due : phase.Due state.clock state.skill.skillcurCooldown
  progression : state.skill.progressionEnabled = true ↔ state.skillClass = .nicky

/-- A step gives records that follow the phase, and its fields show the next. -/
def Advances (phase : SkillPhase K) (result : PlayerSkill K × List (SkillRecord K)) : Prop :=
  ∃ next, Unfolds phase result.2 next ∧ result.1.Tracks next

/-- A call with which each cast is paid and starts its cooldown. -/
def Regular (state : PlayerSkill K) : SkillCall K → Prop
  | .cast => state.castAccepted = true → state.skillClass.startsCooldown = true
  | .frame deltaTime => 0 ≤ deltaTime
  | .skillEnd => state.skillClass.endsOutside = true
  | .statusChange maxStamina stamina _ => 0 ≤ stamina ∧ stamina ≤ maxStamina
  | .controlStamina => 10 ≤ state.player.stamina
  | _ => True

section Steps

variable {state : PlayerSkill K} {phase : SkillPhase K}

theorem Advances.silent {result : PlayerSkill K} (h : result.Tracks phase) :
    Advances phase (result, []) :=
  ⟨phase, .nil phase, h⟩

/-! ### The end of a skill -/

theorem skillEnd_started (h : state.skill.progressionEnabled = true)
    (hstarted : state.skill.cooldownStarted = true) : state.skillEnd = (state, []) := by
  rw [skillEnd, h, hstarted]
  rfl

theorem skillEnd_starts
    (h : (state.skill.progressionEnabled && state.skill.cooldownStarted) = false) :
    ∃ length, state.skillEnd =
      ({ state with
        skill := { state.skill with
          skillcurCooldown := length
          cooldownStarted := state.skill.progressionEnabled || state.skill.cooldownStarted } },
        [.cooldownStart state.clock length]) := by
  rw [skillEnd, h]
  exact ⟨_, rfl⟩

/-- The end of one of Nicky's skills starts the cooldown of a cast once. -/
theorem skillEnd_nicky (hclass : state.skillClass = .nicky) (h : state.Tracks phase) :
    Advances phase state.skillEnd ∧ state.skillEnd.1.skill.cooldownStarted = true ∧
      state.skillEnd.1.skillClass = .nicky := by
  obtain ⟨hshown, hdue, hprogression⟩ := h
  have hprogress := hprogression.mpr hclass
  rw [hclass] at hshown
  cases hstarted : state.skill.cooldownStarted with
  | true =>
    rw [skillEnd_started hprogress hstarted]
    refine ⟨.silent ⟨?_, hdue, hprogression⟩, hstarted, hclass⟩
    rw [hclass]
    exact hshown
  | false =>
    have hnew : (state.skill.progressionEnabled && state.skill.cooldownStarted) = false := by
      rw [hstarted, Bool.and_false]
    obtain ⟨length, hend⟩ := skillEnd_starts hnew
    rw [hend, hprogress]
    refine ⟨?_, rfl, hclass⟩
    cases phase with
    | fresh =>
      refine ⟨.fresh, .early (.nil _), ?_, trivial, iff_of_true hprogress hclass⟩
      dsimp only
      rw [hclass]
      exact hshown
    | casting time =>
      refine ⟨.cooled (state.clock + max 0 length), .started hdue (.nil _), ?_, le_rfl,
        iff_of_true hprogress hclass⟩
      dsimp only
      rw [hclass]
      rfl
    | cooled ready => exact absurd (hshown.symm.trans hstarted) (by decide)

/-- The cooldown of a cast of Bianca's starts. -/
theorem skillEnd_cooled {castTime : K} (hcast : castTime ≤ state.clock)
    (hprogress : state.skill.progressionEnabled = false) (hnicky : state.skillClass ≠ .nicky)
    (hshown : ∀ ready skill, (SkillPhase.cooled ready).Shown skill state.skillClass) :
    Advances (.casting castTime) state.skillEnd := by
  have hnew : (state.skill.progressionEnabled && state.skill.cooldownStarted) = false := by
    rw [hprogress, Bool.false_and]
  obtain ⟨length, hend⟩ := skillEnd_starts hnew
  rw [hend]
  refine ⟨.cooled (state.clock + max 0 length), .started hcast (.nil _), hshown _ _, le_rfl, ?_⟩
  exact iff_of_false (fun h => nomatch hprogress.symm.trans h) hnicky

/-- Bianca's W that plays goes on or ends. -/
theorem playSkill_biancaW {repeatKey elapsedTime skillTimer : K}
    (hclass : state.skillClass = .biancaW true repeatKey elapsedTime skillTimer)
    (h : state.Tracks phase) : Advances phase state.playSkill := by
  have hnicky : state.skillClass ≠ .nicky := fun hnicky => nomatch hclass.symm.trans hnicky
  have hprogress : state.skill.progressionEnabled = false :=
    Bool.eq_false_iff.mpr fun hprogress => hnicky (h.progression.mp hprogress)
  have hshown := h.shown
  rw [hclass] at hshown
  unfold playSkill
  rw [hclass]
  dsimp only
  split
  · exact .silent h
  · cases phase with
    | fresh => exact nomatch hshown
    | casting time =>
      exact skillEnd_cooled h.due hprogress (fun hnicky => nomatch hnicky) fun _ _ => rfl
    | cooled ready => exact nomatch hshown

/-! ### Frames -/

section Frames

variable {deltaTime : K}

theorem updateCooldown_keeps (skill : BaseSkill K) (deltaTime : K) :
    ∃ cooldown, skill.updateCooldown deltaTime =
      { skill with skillcurCooldown := cooldown } := by
  unfold BaseSkill.updateCooldown
  split
  · exact ⟨_, rfl⟩
  · exact ⟨skill.skillcurCooldown, rfl⟩

/-- A cast that has ended. -/
theorem Tracks.castOver (hclass : state.skillClass = .nicky)
    (hstarted : state.skill.cooldownStarted = true) (h : state.Tracks phase) :
    Tracks { state with skill := { state.skill with castInProgress := false } } phase := by
  refine ⟨?_, h.due, h.progression⟩
  have hshown := h.shown
  rw [hclass] at hshown
  dsimp only
  rw [hclass]
  cases phase with
  | fresh => rfl
  | casting time => exact absurd (hstarted.symm.trans hshown.2) (by decide)
  | cooled ready => exact hstarted

theorem updateSkillCoolDown_nicky (hclass : state.skillClass = .nicky)
    (h : Tracks { state with skill := state.skill.updateCooldown deltaTime } phase) :
    Advances phase (state.updateSkillCoolDown deltaTime) := by
  dsimp only [updateSkillCoolDown]
  split
  · have hcooled : ({ state with
        skill := state.skill.updateCooldown deltaTime } : PlayerSkill K).skillClass = .nicky :=
      hclass
    obtain ⟨⟨next, hrecords, hnext⟩, hstarted, hnicky⟩ := skillEnd_nicky hcooled h
    exact ⟨next, hrecords, hnext.castOver hnicky hstarted⟩
  · exact .silent h

theorem updateSkillCoolDown_plain (state : PlayerSkill K) (deltaTime : K)
    (h : state.skill.progressionEnabled = false) :
    state.updateSkillCoolDown deltaTime =
      ({ state with skill := state.skill.updateCooldown deltaTime }, []) := by
  have hplain : (state.skill.updateCooldown deltaTime).progressionEnabled = false := by
    obtain ⟨cooldown, hskill⟩ := updateCooldown_keeps state.skill deltaTime
    rw [hskill]
    exact h
  dsimp only [updateSkillCoolDown]
  rw [hplain]
  rfl

variable [IsStrictOrderedRing K]

theorem due_later {clock cooldown later : K} (hdelta : 0 ≤ deltaTime)
    (hlater : max 0 cooldown ≤ max 0 later + deltaTime) (h : phase.Due clock cooldown) :
    phase.Due (clock + deltaTime) later := by
  cases phase with
  | fresh => trivial
  | casting time =>
    have htime : time ≤ clock := h
    show time ≤ clock + deltaTime
    linarith
  | cooled ready =>
    have hready : ready ≤ clock + max 0 cooldown := h
    show ready ≤ clock + deltaTime + max 0 later
    linarith

theorem max_sub_later (hdelta : 0 ≤ deltaTime) (cooldown : K) :
    max 0 cooldown ≤ max 0 (cooldown - deltaTime) + deltaTime := by
  have hzero : 0 ≤ max 0 (cooldown - deltaTime) := le_max_left _ _
  have hleft : cooldown - deltaTime ≤ max 0 (cooldown - deltaTime) := le_max_right _ _
  apply max_le
  · linarith
  · linarith

theorem updateCooldown_later (hdelta : 0 ≤ deltaTime) (skill : BaseSkill K) :
    max 0 skill.skillcurCooldown ≤
      max 0 (skill.updateCooldown deltaTime).skillcurCooldown + deltaTime := by
  unfold BaseSkill.updateCooldown
  split
  · have hlater := max_sub_later hdelta skill.skillcurCooldown
    have hmax : max 0 (max 0 (skill.skillcurCooldown - deltaTime)) =
        max 0 (skill.skillcurCooldown - deltaTime) := max_eq_right (le_max_left _ _)
    dsimp only
    rw [hmax]
    exact hlater
  · exact le_add_of_nonneg_right hdelta

/-- The skill of a later frame. -/
def later (state : PlayerSkill K) (deltaTime : K) : PlayerSkill K :=
  { state with
    clock := state.clock + deltaTime
    skill := state.skill.updateCooldown deltaTime }

theorem later_tracks (hdelta : 0 ≤ deltaTime) (h : state.Tracks phase) :
    (state.later deltaTime).Tracks phase := by
  have hdue := due_later hdelta (updateCooldown_later hdelta state.skill) h.due
  obtain ⟨cooldown, hskill⟩ := updateCooldown_keeps state.skill deltaTime
  unfold later
  rw [hskill] at hdue ⊢
  exact ⟨h.shown, hdue, h.progression⟩

theorem update_biancaW {isPlaying : Bool} {repeatKey elapsedTime skillTimer : K}
    (hclass : state.skillClass = .biancaW isPlaying repeatKey elapsedTime skillTimer)
    (hdelta : 0 ≤ deltaTime) (h : state.Tracks phase) :
    Advances phase ({ state with clock := state.clock + deltaTime }.update deltaTime) := by
  have hnicky : state.skillClass ≠ .nicky := fun hnicky => nomatch hclass.symm.trans hnicky
  have hprogress : state.skill.progressionEnabled ≠ true :=
    fun hprogress => hnicky (h.progression.mp hprogress)
  have hsame : phase.Due (state.clock + deltaTime) state.skill.skillcurCooldown :=
    due_later hdelta (le_add_of_nonneg_right hdelta) h.due
  have hshown := h.shown
  rw [hclass] at hshown
  have hplain : ∀ repeatKey elapsedTime skillTimer : K,
      state.skill.progressionEnabled = true ↔
        SkillClass.biancaW isPlaying repeatKey elapsedTime skillTimer = .nicky :=
    fun _ _ _ => iff_of_false hprogress fun h => nomatch h
  have hkept : ∀ (skill : BaseSkill K) (repeatKey elapsedTime skillTimer : K),
      phase.Shown skill (.biancaW isPlaying repeatKey elapsedTime skillTimer) := by
    intro skill repeatKey elapsedTime skillTimer
    cases phase with
    | fresh => exact hshown
    | casting time => exact hshown
    | cooled ready => exact hshown
  unfold update
  rw [hclass]
  dsimp only
  split
  · exact .silent ⟨hkept _ _ _ _, hsame, hplain _ _ _⟩
  · cases isPlaying with
    | true =>
      have hplaying : Tracks { state with
          clock := state.clock + deltaTime
          skillClass := .biancaW true (repeatKey + deltaTime) (elapsedTime + deltaTime)
            (skillTimer + deltaTime) } phase :=
        ⟨hkept _ _ _ _, hsame, hplain _ _ _⟩
      rw [if_pos rfl]
      split
      · exact playSkill_biancaW rfl hplaying
      · exact .silent hplaying
    | false =>
      rw [if_neg Bool.false_ne_true]
      exact .silent ⟨hkept _ _ _ _, due_later hdelta (max_sub_later hdelta _) h.due,
        hplain _ _ _⟩

theorem update_biancaR {skillFlag phaseTwo : Bool} {drainTime innerTime : K}
    (hclass : state.skillClass = .biancaR skillFlag phaseTwo drainTime innerTime)
    (hdelta : 0 ≤ deltaTime) (h : state.Tracks phase) :
    Advances phase ({ state with clock := state.clock + deltaTime }.update deltaTime) := by
  have hnicky : state.skillClass ≠ .nicky := fun hnicky => nomatch hclass.symm.trans hnicky
  have hprogress : state.skill.progressionEnabled = false :=
    Bool.eq_false_iff.mpr fun hprogress => hnicky (h.progression.mp hprogress)
  obtain ⟨hshown, hdue, hprogression⟩ := later_tracks hdelta h
  have hshown' : phase.Shown (state.later deltaTime).skill
      (.biancaR skillFlag phaseTwo drainTime innerTime) := by
    rw [← hclass]
    exact hshown
  have hkept : ∀ (skillFlag phaseTwo : Bool) (drainTime innerTime : K),
      phase.Shown (state.later deltaTime).skill
        (.biancaR skillFlag phaseTwo drainTime innerTime) := by
    intro skillFlag phaseTwo drainTime innerTime
    cases phase with
    | fresh => trivial
    | casting time => exact hshown'
    | cooled ready => trivial
  have hplain : ∀ (skillFlag phaseTwo : Bool) (drainTime innerTime : K),
      (state.later deltaTime).skill.progressionEnabled = true ↔
        SkillClass.biancaR skillFlag phaseTwo drainTime innerTime = .nicky :=
    fun _ _ _ _ => iff_of_false (fun h => hnicky (hprogression.mp h)) fun h => nomatch h
  unfold update
  rw [hclass]
  dsimp only
  rw [updateSkillCoolDown_plain { state with
    clock := state.clock + deltaTime
    skillClass := .biancaR skillFlag phaseTwo drainTime innerTime } deltaTime hprogress]
  dsimp only
  split
  · exact .silent ⟨hkept _ _ _ _, hdue, hplain _ _ _ _⟩
  · split
    · split
      · exact .silent ⟨hkept _ _ _ _, hdue, hplain _ _ _ _⟩
      · exact .silent ⟨hkept _ _ _ _, hdue, hplain _ _ _ _⟩
    · exact .silent ⟨hkept _ _ _ _, hdue, hplain _ _ _ _⟩

/-- A frame of Bianca's Q and E only counts the cooldown down. -/
theorem update_uncast (hclass : state.skillClass = .biancaQ ∨ state.skillClass = .biancaE)
    (hdelta : 0 ≤ deltaTime) (h : state.Tracks phase) :
    Advances phase ({ state with clock := state.clock + deltaTime }.update deltaTime) := by
  have hcounted := due_later hdelta (max_sub_later hdelta state.skill.skillcurCooldown) h.due
  have hsame := due_later hdelta (le_add_of_nonneg_right hdelta) h.due
  have hcount : Tracks { state with
      clock := state.clock + deltaTime
      skill := { state.skill with
        skillcurCooldown := state.skill.skillcurCooldown - deltaTime } } phase :=
    ⟨h.shown, hcounted, h.progression⟩
  rcases hclass with hclass | hclass
  · unfold update
    rw [hclass] at hcount ⊢
    exact .silent hcount
  · unfold update
    rw [hclass] at hcount ⊢
    dsimp only
    split
    · refine .silent ⟨hcount.shown, hsame, hcount.progression⟩
    · exact .silent hcount

theorem update_advances (hdelta : 0 ≤ deltaTime) (h : state.Tracks phase) :
    Advances phase ({ state with clock := state.clock + deltaTime }.update deltaTime) := by
  have hcases : ∀ skillClass, state.skillClass = skillClass →
      Advances phase ({ state with clock := state.clock + deltaTime }.update deltaTime) := by
    intro skillClass hclass
    cases skillClass with
    | nicky =>
      have hlater := later_tracks hdelta h
      unfold update
      rw [hclass]
      unfold later at hlater
      rw [hclass] at hlater
      exact updateSkillCoolDown_nicky rfl hlater
    | biancaQ => exact update_uncast (.inl hclass) hdelta h
    | biancaW => exact update_biancaW hclass hdelta h
    | biancaE => exact update_uncast (.inr hclass) hdelta h
    | biancaR => exact update_biancaR hclass hdelta h
  exact hcases state.skillClass rfl

end Frames

/-! ### Casts -/

theorem castAccepted_ready (h : state.castAccepted = true) :
    state.skill.skillcurCooldown ≤ 0 ∧ state.skill.castInProgress = false ∧
      state.skill.getStaminaCost ≤ state.player.stamina := by
  unfold castAccepted BaseSkill.canExecuteSkill at h
  simp only [Bool.and_eq_true, decide_eq_true_eq, Bool.not_eq_true'] at h
  obtain ⟨⟨⟨⟨hlevel, hcooldown⟩, hfree⟩, hcost⟩, hready⟩ := h
  exact ⟨hcooldown, hfree, hcost⟩

/-- A cast that comes after the cooldown of the one before. -/
theorem Unfolds.castNow {final : SkillPhase K} {records : List (SkillRecord K)}
    (hdue : phase.Due state.clock state.skill.skillcurCooldown)
    (hcooldown : state.skill.skillcurCooldown ≤ 0) (hwait : ∀ time, phase ≠ .casting time)
    (h : Unfolds (.casting state.clock) records final) :
    Unfolds phase (.cast state.clock :: records) final := by
  cases phase with
  | fresh => exact .first h
  | casting time => exact absurd rfl (hwait time)
  | cooled ready =>
    have hready : ready ≤ state.clock + max 0 state.skill.skillcurCooldown := hdue
    rw [max_eq_left hcooldown, add_zero] at hready
    exact .again hready h

/-- What `OnSkillUsed` does for an accepted cast. -/
theorem onSkillUsed_advances (haccepted : state.castAccepted = true)
    (hstarts : state.skillClass.startsCooldown = true) (h : state.Tracks phase) :
    (∀ time, phase ≠ .casting time) ∧ Advances (.casting state.clock) state.onSkillUsed := by
  obtain ⟨hcooldown, hfree, hcost⟩ := castAccepted_ready haccepted
  obtain ⟨hshown, hdue, hprogression⟩ := h
  have hcases : ∀ skillClass, state.skillClass = skillClass →
      (∀ time, phase ≠ .casting time) ∧ Advances (.casting state.clock) state.onSkillUsed := by
    intro skillClass hclass
    rw [hclass] at hshown hstarts hprogression
    unfold onSkillUsed
    rw [hclass]
    cases skillClass with
    | nicky =>
      have hprogress := hprogression.mpr rfl
      have hexecute : state.skill.canExecuteSkill state.player = true := by
        unfold castAccepted at haccepted
        exact (Bool.and_eq_true _ _ ▸ haccepted).1
      refine ⟨?_, ?_⟩
      · rintro time rfl
        exact nomatch hshown.1.symm.trans hfree
      · dsimp only [executeSkill]
        rw [hexecute, hprogress, if_pos rfl, if_pos rfl]
        dsimp only [playSkill]
        rw [hclass]
        exact .silent ⟨⟨rfl, rfl⟩, le_rfl, iff_of_true rfl rfl⟩
    | biancaQ => exact nomatch hstarts
    | biancaW isPlaying repeatKey elapsedTime skillTimer =>
      cases isPlaying with
      | true => exact nomatch hstarts
      | false =>
        have hprogress : state.skill.progressionEnabled ≠ true :=
          fun hprogress => nomatch hprogression.mp hprogress
        refine ⟨?_, ?_⟩
        · rintro time rfl
          exact nomatch hshown
        · dsimp only [playSkill]
          rw [hclass]
          dsimp only
          rw [if_pos hcooldown]
          exact .silent ⟨rfl, le_rfl, iff_of_false hprogress fun h => nomatch h⟩
    | biancaE => exact nomatch hstarts
    | biancaR skillFlag phaseTwo drainTime innerTime =>
      cases skillFlag with
      | true => exact nomatch hstarts
      | false =>
        have hprogress : state.skill.progressionEnabled = false :=
          Bool.eq_false_iff.mpr fun hprogress => nomatch hprogression.mp hprogress
        refine ⟨?_, ?_⟩
        · rintro time rfl
          exact hshown
        · dsimp only [playSkill]
          rw [hclass]
          dsimp only
          rw [decide_eq_false (not_lt.mpr hcooldown), if_neg (by decide)]
          exact skillEnd_cooled le_rfl hprogress (fun h => nomatch h) fun _ _ => trivial
  exact hcases state.skillClass rfl

theorem cast_advances
    (hstarts : state.castAccepted = true → state.skillClass.startsCooldown = true)
    (h : state.Tracks phase) : Advances phase state.cast := by
  unfold cast
  split
  next haccepted =>
    obtain ⟨hwait, next, hrecords, hnext⟩ :=
      onSkillUsed_advances haccepted (hstarts haccepted) h
    have hcooldown := (castAccepted_ready haccepted).1
    exact ⟨next, Unfolds.castNow h.due hcooldown hwait hrecords,
      hnext.shown, hnext.due, hnext.progression⟩
  next => exact .silent h

/-- The end of Bianca's E starts a cooldown without a cast. -/
theorem skillEnd_biancaE (hclass : state.skillClass = .biancaE) (h : state.Tracks phase) :
    Advances phase state.skillEnd := by
  obtain ⟨hshown, hdue, hprogression⟩ := h
  have hnicky : state.skillClass ≠ .nicky := fun hnicky => nomatch hclass.symm.trans hnicky
  have hprogress : state.skill.progressionEnabled ≠ true :=
    fun hprogress => hnicky (hprogression.mp hprogress)
  have hnew : (state.skill.progressionEnabled && state.skill.cooldownStarted) = false := by
    rw [Bool.eq_false_iff.mpr hprogress, Bool.false_and]
  obtain ⟨length, hend⟩ := skillEnd_starts hnew
  rw [hclass] at hshown
  rw [hend]
  cases phase with
  | fresh =>
    refine ⟨.fresh, .early (.nil _), ?_, trivial, iff_of_false hprogress hnicky⟩
    dsimp only
    rw [hclass]
    trivial
  | casting time => exact hshown.elim
  | cooled ready => exact hshown.elim

variable [IsStrictOrderedRing K]

theorem call_advances {event : SkillCall K} (hregular : state.Regular event)
    (h : state.Tracks phase) : Advances phase (state.call event) := by
  cases event with
  | cast => exact cast_advances hregular h
  | frame deltaTime => exact update_advances hregular h
  | skillEnd =>
    have houtside : state.skillClass.endsOutside = true := hregular
    cases hclass : state.skillClass with
    | nicky => exact (skillEnd_nicky hclass h).1
    | biancaE => exact skillEnd_biancaE hclass h
    | biancaQ => exact nomatch (hclass ▸ houtside : SkillClass.endsOutside .biancaQ = true)
    | biancaW =>
      rw [hclass] at houtside
      exact nomatch houtside
    | biancaR =>
      rw [hclass] at houtside
      exact nomatch houtside
  | skillLevelUp =>
    refine .silent ?_
    split
    · exact ⟨h.shown, h.due, h.progression⟩
    · exact h
  | stateChange newState => exact .silent ⟨h.shown, h.due, h.progression⟩
  | statusChange maxStamina stamina cooldownReduction =>
    exact .silent ⟨h.shown, h.due, h.progression⟩
  | controlStamina => exact .silent ⟨h.shown, h.due, h.progression⟩

/-! ## Stamina -/

end Steps

/-- Records without casts. -/
def NoCast (records : List (SkillRecord K)) : Prop :=
  ∀ time, .cast time ∉ records

/-- A step that leaves the player as it is and casts nothing. -/
structure Quiet (state : PlayerSkill K) (result : PlayerSkill K × List (SkillRecord K)) :
    Prop where
  player : result.1.player = state.player
  noCast : NoCast result.2

/-- A cast takes its cost once and is recorded once; nothing else casts or, a change of the
status and the key for stamina apart, changes the stamina. -/
def Charges (state : PlayerSkill K) (event : SkillCall K)
    (result : PlayerSkill K × List (SkillRecord K)) : Prop :=
  match event with
  | .cast =>
    if state.castAccepted then
      result.1.player.stamina = state.player.stamina - state.skill.getStaminaCost ∧
        ∃ records, result.2 = .cast state.clock :: records ∧ NoCast records
    else result.1.player.stamina = state.player.stamina ∧ NoCast result.2
  | .statusChange _ _ _ => NoCast result.2
  | .controlStamina => NoCast result.2
  | _ => result.1.player.stamina = state.player.stamina ∧ NoCast result.2

structure StaminaBounds (player : SkillPlayer K) : Prop where
  nonneg : 0 ≤ player.stamina
  le_max : player.stamina ≤ player.maxStamina

section Charging

variable {state : PlayerSkill K}

omit [Field K] [LinearOrder K] in
theorem noCast_nil : NoCast ([] : List (SkillRecord K)) :=
  fun _ h => nomatch h

omit [LinearOrder K] in
theorem Quiet.of_player {before : PlayerSkill K}
    {result : PlayerSkill K × List (SkillRecord K)} (h : Quiet before result)
    (hplayer : before.player = state.player) : Quiet state result :=
  ⟨h.player.trans hplayer, h.noCast⟩

theorem skillEnd_quiet (state : PlayerSkill K) : Quiet state state.skillEnd := by
  dsimp only [skillEnd]
  split
  · exact ⟨rfl, noCast_nil⟩
  · refine ⟨rfl, fun time hmem => ?_⟩
    exact nomatch List.mem_singleton.mp hmem

theorem updateSkillCoolDown_quiet (state : PlayerSkill K) (deltaTime : K) :
    Quiet state (state.updateSkillCoolDown deltaTime) := by
  dsimp only [updateSkillCoolDown]
  split
  · have hend := skillEnd_quiet { state with skill := state.skill.updateCooldown deltaTime }
    exact ⟨hend.player, hend.noCast⟩
  · exact ⟨rfl, noCast_nil⟩

theorem playSkill_quiet (state : PlayerSkill K) : Quiet state state.playSkill := by
  unfold playSkill
  split
  · exact ⟨rfl, noCast_nil⟩
  · exact ⟨rfl, noCast_nil⟩
  · split
    · exact ⟨rfl, noCast_nil⟩
    · exact (skillEnd_quiet _).of_player rfl
  · split
    · exact ⟨rfl, noCast_nil⟩
    · exact ⟨rfl, noCast_nil⟩
  · exact ⟨rfl, noCast_nil⟩
  · split
    · exact ⟨rfl, noCast_nil⟩
    · exact (skillEnd_quiet _).of_player rfl

theorem update_quiet (state : PlayerSkill K) (deltaTime : K) :
    Quiet state (state.update deltaTime) := by
  unfold update
  split
  · exact updateSkillCoolDown_quiet state deltaTime
  · exact ⟨rfl, noCast_nil⟩
  · split
    · exact ⟨rfl, noCast_nil⟩
    · split
      · dsimp only
        split
        · exact (playSkill_quiet _).of_player rfl
        · exact ⟨rfl, noCast_nil⟩
      · exact ⟨rfl, noCast_nil⟩
  · split
    · exact ⟨rfl, noCast_nil⟩
    · exact ⟨rfl, noCast_nil⟩
  · have hcooled := updateSkillCoolDown_quiet state deltaTime
    dsimp only
    split
    · exact ⟨hcooled.player, hcooled.noCast⟩
    · split
      · split
        · exact ⟨hcooled.player, hcooled.noCast⟩
        · exact ⟨hcooled.player, hcooled.noCast⟩
      · exact hcooled

theorem staminaCost_nonneg (base rank maxRank : Int) :
    0 ≤ SkillProgression.staminaCost base rank maxRank := by
  have hpercent : 50 ≤ SkillProgression.percent rank maxRank := le_max_left _ _
  have hbase : 0 ≤ max 0 base := le_max_left _ _
  have hproduct : 0 ≤ max 0 base * SkillProgression.percent rank maxRank :=
    mul_nonneg hbase (by omega)
  unfold SkillProgression.staminaCost
  omega

omit [LinearOrder K] in
theorem getStaminaCost_nonneg (skill : BaseSkill K) : 0 ≤ skill.getStaminaCost := by
  unfold BaseSkill.getStaminaCost
  split
  · exact staminaCost_nonneg _ _ _
  · exact le_rfl

/-- An accepted cast takes its cost, if the class of the skill takes any. -/
theorem onSkillUsed_stamina (haccepted : state.castAccepted = true)
    (hprogression : state.skill.progressionEnabled = true ↔ state.skillClass = .nicky)
    (hmax : state.player.stamina ≤ state.player.maxStamina) :
    state.onSkillUsed.1.player.stamina =
        state.player.stamina - state.skill.getStaminaCost ∧
      state.onSkillUsed.1.player.maxStamina = state.player.maxStamina ∧
      NoCast state.onSkillUsed.2 := by
  have hexecute : state.skill.canExecuteSkill state.player = true := by
    unfold castAccepted at haccepted
    exact (Bool.and_eq_true _ _ ▸ haccepted).1
  by_cases hclass : state.skillClass = .nicky
  · have hprogress := hprogression.mpr hclass
    have hused : state.onSkillUsed = state.executeSkill := by
      unfold onSkillUsed
      rw [hclass]
    have hcost := getStaminaCost_nonneg state.skill
    have hmin : min (state.player.stamina - state.skill.getStaminaCost)
        state.player.maxStamina = state.player.stamina - state.skill.getStaminaCost :=
      min_eq_left (by omega)
    rw [hused]
    dsimp only [executeSkill]
    rw [hexecute, hprogress, if_pos rfl, if_pos rfl]
    have hplay := playSkill_quiet { state with
      player := state.player.setStamina (state.player.stamina - state.skill.getStaminaCost)
      skill := { state.skill with
        progressionEnabled := true
        castInProgress := true
        cooldownStarted := false } }
    refine ⟨?_, ?_, hplay.noCast⟩
    · rw [hplay.player]
      exact hmin
    · rw [hplay.player]
      rfl
  · have hplain : state.skill.progressionEnabled = false :=
      Bool.eq_false_iff.mpr fun hprogress => hclass (hprogression.mp hprogress)
    have hused : state.onSkillUsed = state.playSkill := by
      unfold onSkillUsed
      split
      next hnicky => exact absurd hnicky hclass
      next => rfl
    have hcost : state.skill.getStaminaCost = 0 := by
      unfold BaseSkill.getStaminaCost
      rw [hplain]
      rfl
    have hplay := playSkill_quiet state
    rw [hused, hcost, hplay.player, Int.sub_zero]
    exact ⟨rfl, rfl, hplay.noCast⟩

theorem cast_charges
    (hprogression : state.skill.progressionEnabled = true ↔ state.skillClass = .nicky)
    (hbounds : StaminaBounds state.player) :
    Charges state .cast state.cast ∧ StaminaBounds state.cast.1.player := by
  dsimp only [Charges, cast]
  split
  next haccepted =>
    obtain ⟨hstamina, hmax, hquiet⟩ :=
      onSkillUsed_stamina haccepted hprogression hbounds.le_max
    have hpaid := (castAccepted_ready haccepted).2.2
    have hcost := getStaminaCost_nonneg state.skill
    have hbefore := hbounds.le_max
    refine ⟨⟨hstamina, _, rfl, hquiet⟩, ?_, ?_⟩
    · show 0 ≤ state.onSkillUsed.1.player.stamina
      omega
    · show state.onSkillUsed.1.player.stamina ≤ state.onSkillUsed.1.player.maxStamina
      omega
  next => exact ⟨⟨rfl, noCast_nil⟩, hbounds⟩

omit [LinearOrder K] in
theorem Quiet.charges {result : PlayerSkill K × List (SkillRecord K)}
    (h : Quiet state result) (hbounds : StaminaBounds state.player) :
    (result.1.player.stamina = state.player.stamina ∧ NoCast result.2) ∧
      StaminaBounds result.1.player := by
  rw [h.player]
  exact ⟨⟨rfl, h.noCast⟩, hbounds⟩

theorem call_charges {event : SkillCall K} (hregular : state.Regular event)
    (hprogression : state.skill.progressionEnabled = true ↔ state.skillClass = .nicky)
    (hbounds : StaminaBounds state.player) :
    Charges state event (state.call event) ∧ StaminaBounds (state.call event).1.player := by
  cases event with
  | cast => exact cast_charges hprogression hbounds
  | frame deltaTime =>
    exact ((update_quiet { state with clock := state.clock + deltaTime } deltaTime).of_player
      rfl).charges hbounds
  | skillEnd => exact (skillEnd_quiet state).charges hbounds
  | skillLevelUp => exact ⟨⟨rfl, noCast_nil⟩, hbounds⟩
  | stateChange newState => exact ⟨⟨rfl, noCast_nil⟩, hbounds.nonneg, hbounds.le_max⟩
  | statusChange maxStamina stamina cooldownReduction =>
    exact ⟨noCast_nil, hregular.1, hregular.2⟩
  | controlStamina =>
    have hten : 10 ≤ state.player.stamina := hregular
    have hmax := hbounds.le_max
    refine ⟨noCast_nil, ?_, min_le_right _ _⟩
    exact le_min (by omega) (hbounds.nonneg.trans hmax)

theorem skillEnd_class (state : PlayerSkill K) :
    state.skillEnd.1.skillClass = state.skillClass := by
  dsimp only [skillEnd]
  split
  · rfl
  · rfl

/-- With progression the cast is over when the player is in another state. -/
theorem updateSkillCoolDown_over (state : PlayerSkill K) (deltaTime : K)
    (hprogress : state.skill.progressionEnabled = true)
    (hstate : state.player.currentState ≠ stateOfSkill state.skill.skillIndex) :
    (state.updateSkillCoolDown deltaTime).1.skill.castInProgress = false ∧
      (state.updateSkillCoolDown deltaTime).1.skillClass = state.skillClass := by
  dsimp only [updateSkillCoolDown]
  split
  · exact ⟨rfl, skillEnd_class _⟩
  next hgoing =>
    obtain ⟨cooldown, hskill⟩ := updateCooldown_keeps state.skill deltaTime
    have hother : (state.player.currentState != stateOfSkill state.skill.skillIndex) = true :=
      bne_iff_ne.mpr hstate
    rw [hskill] at hgoing ⊢
    dsimp only at hgoing
    rw [hprogress, hother, Bool.true_and, Bool.and_true] at hgoing
    exact ⟨Bool.eq_false_iff.mpr hgoing, rfl⟩

/-! ## Runs -/

/-- A frame in which the player is no longer in the state of the skill ends the cast. -/
theorem frame_ends_cast {phase : SkillPhase K} {deltaTime : K}
    (hclass : state.skillClass = .nicky)
    (hstate : state.player.currentState ≠ stateOfSkill state.skill.skillIndex)
    (hprogression : state.skill.progressionEnabled = true ↔ state.skillClass = .nicky)
    (h : (state.call (.frame deltaTime)).1.Tracks phase) (time : K) :
    phase ≠ .casting time := by
  rintro rfl
  have hcall : state.call (.frame deltaTime) =
      { state with clock := state.clock + deltaTime }.updateSkillCoolDown deltaTime := by
    dsimp only [call, update]
    rw [hclass]
  obtain ⟨hover, hkept⟩ := updateSkillCoolDown_over
    { state with clock := state.clock + deltaTime } deltaTime (hprogression.mpr hclass) hstate
  have hshown := h.shown
  rw [hcall, hkept.trans hclass] at hshown
  exact nomatch hshown.1.symm.trans hover

theorem playable_tracks {skill : BaseSkill K × SkillClass K} (hskill : skill ∈ playableSkills)
    (player : SkillPlayer K) : (initial skill player).Tracks .fresh := by
  simp only [playableSkills, List.mem_cons, List.not_mem_nil, or_false] at hskill
  rcases hskill with rfl | rfl | rfl | rfl | rfl | rfl | rfl | rfl
  · exact ⟨rfl, trivial, iff_of_true rfl rfl⟩
  · exact ⟨rfl, trivial, iff_of_true rfl rfl⟩
  · exact ⟨rfl, trivial, iff_of_true rfl rfl⟩
  · exact ⟨rfl, trivial, iff_of_true rfl rfl⟩
  · exact ⟨trivial, trivial, iff_of_false (fun h => nomatch h) fun h => nomatch h⟩
  · exact ⟨rfl, trivial, iff_of_false (fun h => nomatch h) fun h => nomatch h⟩
  · exact ⟨trivial, trivial, iff_of_false (fun h => nomatch h) fun h => nomatch h⟩
  · exact ⟨trivial, trivial, iff_of_false (fun h => nomatch h) fun h => nomatch h⟩

variable [IsStrictOrderedRing K]

theorem run_law {phase : SkillPhase K} (h : state.Tracks phase)
    (hbounds : StaminaBounds state.player) {calls : List (SkillCall K)}
    (hcalls : Meets (fun state event => (call state event).1) Regular state calls) :
    (∃ final, Unfolds phase (replies call state calls).flatten final ∧
        (after call state calls).Tracks final) ∧
      Meets (fun state event => (call state event).1)
        (fun state event => Charges state event (state.call event)) state calls ∧
      StaminaBounds (after call state calls).player := by
  induction calls generalizing state phase with
  | nil => exact ⟨⟨phase, .nil phase, h⟩, trivial, hbounds⟩
  | cons event calls ih =>
    obtain ⟨hregular, hlater⟩ := hcalls
    obtain ⟨next, hrecords, hnext⟩ := call_advances hregular h
    obtain ⟨hcharges, hkept⟩ := call_charges hregular h.progression hbounds
    obtain ⟨⟨final, hfollows, hfinal⟩, hmeets, hbounds'⟩ := ih hnext hkept hlater
    exact ⟨⟨final, hrecords.append hfollows, hfinal⟩, ⟨hcharges, hmeets⟩, hbounds'⟩

end Charging

/-! ## Two casts of Nicky's Q and of Bianca's -/

def somePlayer : SkillPlayer ℚ where
  stamina := 580
  maxStamina := 600
  cooldownReduction := 1 / 10
  currentState := .wait

def someCalls : List (SkillCall ℚ) :=
  [.skillLevelUp, .frame 1, .cast, .stateChange .wait, .frame 1, .cast, .frame 5, .cast]

instance (state : PlayerSkill ℚ) : (event : SkillCall ℚ) → Decidable (state.Regular event)
  | .cast => inferInstanceAs (Decidable (_ → _))
  | .frame deltaTime => inferInstanceAs (Decidable (0 ≤ deltaTime))
  | .skillEnd => inferInstanceAs (Decidable (_ = true))
  | .skillLevelUp => inferInstanceAs (Decidable True)
  | .stateChange _ => inferInstanceAs (Decidable True)
  | .statusChange _ _ _ => inferInstanceAs (Decidable (_ ∧ _))
  | .controlStamina => inferInstanceAs (Decidable (10 ≤ state.player.stamina))

end PlayerSkill

end SurvivalArena
