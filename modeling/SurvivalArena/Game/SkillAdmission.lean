import SurvivalArena.Game.PlayerStateMachine

/-!
# Skill admission

What becomes of the casts over whole runs: one at a time is pending, each is used or
dropped once, and it is used in the step that enters its state, where everything that the
key press was checked for still holds.
-/

namespace SurvivalArena

open Machine

variable {ω τ : Type}

abbrev PendingCast (τ : Type) := Option (Fin 4 × Option τ)

/-- Casts are queued one at a time, and each is used or dropped before the next. -/
inductive CastHistory : PendingCast τ → List (CastEvent τ) → PendingCast τ → Prop where
  | nil (pending : PendingCast τ) : CastHistory pending [] pending
  | queued {skillIndex : Fin 4} {target : Option τ} {events : List (CastEvent τ)}
      {final : PendingCast τ} (h : CastHistory (some (skillIndex, target)) events final) :
      CastHistory none (.queued skillIndex target :: events) final
  | used {skillIndex : Fin 4} {target : Option τ} {events : List (CastEvent τ)}
      {final : PendingCast τ} (h : CastHistory none events final) :
      CastHistory (some (skillIndex, target)) (.used skillIndex target :: events) final
  | dropped {skillIndex : Fin 4} {target : Option τ} {events : List (CastEvent τ)}
      {final : PendingCast τ} (h : CastHistory none events final) :
      CastHistory (some (skillIndex, target)) (.dropped skillIndex target :: events) final

theorem CastHistory.append {pending middle final : PendingCast τ}
    {events later : List (CastEvent τ)} (h : CastHistory pending events middle)
    (hlater : CastHistory middle later final) :
    CastHistory pending (events ++ later) final := by
  induction h with
  | nil => exact hlater
  | queued _ ih => exact .queued (ih hlater)
  | used _ ih => exact .used (ih hlater)
  | dropped _ ih => exact .dropped (ih hlater)

namespace PlayerFrame

def pendingCast (frame : PlayerFrame ω τ) : PendingCast τ :=
  frame.machine.pendingSkillIndex.map fun skillIndex =>
    (skillIndex, frame.machine.pendingSkillTarget)

/-- A request for the state of a pending cast is still in one of the queues. -/
def PendingQueued (frame : PlayerFrame ω τ) : Prop :=
  ∀ skillIndex, frame.machine.pendingSkillIndex = some skillIndex →
    skillStateForIndex skillIndex ∈ frame.machine.stateChangeQueue ∨
      (frame.machine.gameObject, skillStateForIndex skillIndex) ∈ frame.eventQueue

/-! ## The law of a step -/

/-- The use of a skill: in the step that enters its state, for the pending cast, with the
transition allowed, the skill usable and cooled down and the target, where the skill takes
one, valid and in range. -/
structure UsesSkill (player : PlayerWorld ω τ) (before after : PlayerFrame ω τ)
    (skillIndex : Fin 4) (target : Option τ) : Prop where
  pending : before.pendingCast = some (skillIndex, target)
  requested : before.machine.stateChangeQueue.head? = some (skillStateForIndex skillIndex)
  transition : before.canChangeState player (skillStateForIndex skillIndex) = true
  usable : player.canUseSkill before.world skillIndex = true
  cooldown : player.skillCoolingDown before.world skillIndex = false
  inRange : player.targetType skillIndex = .single → ∃ object, target = some object ∧
    player.isValidAttackTarget before.world object = true ∧
    player.getActive before.world object = true ∧
    player.outOfRange before.world skillIndex object = false
  entered : after.machine.currentState = some (skillStateForIndex skillIndex)
  cleared : after.pendingCast = none
  world : after.world = ((before.useSkill player skillIndex target).enterState player
    (skillStateForIndex skillIndex)).world

/-- The changes of the world in which no skill is used. -/
inductive NoSkill (player : PlayerWorld ω τ) (before : PlayerFrame ω τ) :
    PlayerCall ω τ → ω → Prop where
  | unchanged (event : PlayerCall ω τ) : NoSkill player before event before.world
  | started : NoSkill player before .start (player.enter .wait before.world)
  | changed (newState : PlayerStateType) : NoSkill player before .executeNext
      (before.enterState player newState).world
  | outside (world : ω) : NoSkill player before (.worldChange world) world

structure StepLaw (player : PlayerWorld ω τ) (before : PlayerFrame ω τ)
    (event : PlayerCall ω τ) (after : PlayerFrame ω τ) (events : List (CastEvent τ)) :
    Prop where
  history : CastHistory before.pendingCast events after.pendingCast
  used : ∀ skillIndex target, .used skillIndex target ∈ events →
    event = .executeNext ∧ events = [.used skillIndex target] ∧
      UsesSkill player before after skillIndex target
  accepted : ∀ skillIndex target, event = .executeNext →
    before.pendingCast = some (skillIndex, target) →
    before.machine.stateChangeQueue.head? = some (skillStateForIndex skillIndex) →
    before.canEnter player (skillStateForIndex skillIndex) = true →
    castAllowed player before.world skillIndex target = true →
    .used skillIndex target ∈ events
  notUsed : (∀ skillIndex target, .used skillIndex target ∉ events) →
    NoSkill player before event after.world
  press : ∀ input, event = .skillInput input → after.world = before.world
  dropped : ∀ skillIndex target, .dropped skillIndex target ∈ events →
    after.world = before.world

section Steps

variable {player : PlayerWorld ω τ} {frame : PlayerFrame ω τ}

/-- A call without cast events that is no change of the state. -/
theorem stepLaw_quiet {event : PlayerCall ω τ} {after : PlayerFrame ω τ}
    (hevent : event ≠ .executeNext) (hpending : after.pendingCast = frame.pendingCast)
    (hworld : NoSkill player frame event after.world)
    (hpress : ∀ input, event = .skillInput input → after.world = frame.world) :
    StepLaw player frame event after [] where
  history := by
    rw [hpending]
    exact .nil _
  used := fun _ _ h => by cases h
  accepted := fun _ _ h => absurd h hevent
  notUsed := fun _ => hworld
  press := hpress
  dropped := fun _ _ h => by cases h

/-- A press does nothing or queues the first cast that the keys and the checks give. -/
theorem handleSkillKeys_cases (player : PlayerWorld ω τ) (input : SkillInput τ)
    (keys : List (Fin 4)) :
    frame.handleSkillKeys player input keys = (frame, []) ∨
      ∃ skillIndex target queued,
        frame.queueSkillCast player skillIndex target = some queued ∧
          frame.handleSkillKeys player input keys =
            (queued, [.queued skillIndex target]) := by
  induction keys with
  | nil => exact .inl rfl
  | cons skillIndex later ih =>
    rw [handleSkillKeys]
    split
    next =>
      split
      next => exact ih
      next target _ =>
        split
        next queued hqueued => exact .inr ⟨skillIndex, target, queued, hqueued, rfl⟩
        next => exact ih
    next => exact ih

/-- A queued cast is the pending one and its request is in the event queue. -/
theorem queueSkillCast_eq {skillIndex : Fin 4} {target : Option τ}
    {queued : PlayerFrame ω τ}
    (h : frame.queueSkillCast player skillIndex target = some queued) :
    queued = ({ frame with
      machine := { frame.machine with
        pendingSkillIndex := some skillIndex
        pendingSkillTarget := target } }.requestStateChange frame.machine.gameObject
          (skillStateForIndex skillIndex)) := by
  unfold queueSkillCast at h
  split at h
  next => cases h
  next =>
    dsimp only at h
    split at h
    next => cases h
    next => exact (Option.some.inj h).symm

theorem handleSkillInput_cases (player : PlayerWorld ω τ) (frame : PlayerFrame ω τ)
    (input : SkillInput τ) :
    frame.handleSkillInput player input = (frame, []) ∨
      ∃ skillIndex target, frame.machine.pendingSkillIndex = none ∧
        frame.handleSkillInput player input =
          ({ frame with
            machine := { frame.machine with
              pendingSkillIndex := some skillIndex
              pendingSkillTarget := target } }.requestStateChange frame.machine.gameObject
                (skillStateForIndex skillIndex), [.queued skillIndex target]) := by
  unfold handleSkillInput
  split
  next => exact .inl rfl
  next hfree =>
    have hpending : frame.machine.pendingSkillIndex = none := by
      cases hindex : frame.machine.pendingSkillIndex with
      | none => rfl
      | some skillIndex =>
        rw [hindex] at hfree
        exact absurd rfl hfree
    rcases handleSkillKeys_cases player input [0, 1, 2, 3] with
      hnothing | ⟨skillIndex, target, queued, hqueued, hcall⟩
    · exact .inl hnothing
    · rw [hcall, queueSkillCast_eq hqueued]
      exact .inr ⟨skillIndex, target, hpending, rfl⟩

theorem handleStateChangeRequest_keeps (frame : PlayerFrame ω τ)
    (request : GameObjectId × PlayerStateType) :
    (frame.handleStateChangeRequest request).pendingCast = frame.pendingCast ∧
      (frame.handleStateChangeRequest request).world = frame.world := by
  unfold handleStateChangeRequest
  split
  · exact ⟨rfl, rfl⟩
  · exact ⟨rfl, rfl⟩

theorem deliver_keeps (frame : PlayerFrame ω τ) :
    frame.deliver.pendingCast = frame.pendingCast ∧ frame.deliver.world = frame.world := by
  unfold deliver
  split
  · exact ⟨rfl, rfl⟩
  · exact handleStateChangeRequest_keeps _ _

theorem stepLaw_skillInput (input : SkillInput τ) :
    StepLaw player frame (.skillInput input) (frame.handleSkillInput player input).1
      (frame.handleSkillInput player input).2 := by
  rcases handleSkillInput_cases player frame input with
    hnothing | ⟨skillIndex, target, hpending, hqueued⟩
  · rw [hnothing]
    exact stepLaw_quiet (fun h => nomatch h) rfl (.unchanged _) fun _ _ => rfl
  · rw [hqueued]
    constructor
    · have hnone : frame.pendingCast = none := by
        unfold pendingCast
        rw [hpending]
        rfl
      rw [hnone]
      exact .queued (.nil _)
    · intro skillIndex' target' hmem
      cases List.mem_singleton.mp hmem
    · exact fun _ _ h => nomatch h
    · exact fun _ => .unchanged _
    · exact fun _ _ => rfl
    · intro skillIndex' target' hmem
      cases List.mem_singleton.mp hmem

/-- The checks of a cast that is used. -/
theorem castAllowed_iff {world : ω} {skillIndex : Fin 4} {target : Option τ} :
    castAllowed player world skillIndex target = true ↔
      player.hasPlayerInterface = true ∧ player.canUseSkill world skillIndex = true ∧
        player.skillCoolingDown world skillIndex = false ∧
        (player.targetType skillIndex = .single → ∃ object, target = some object ∧
          player.isValidAttackTarget world object = true ∧
          player.getActive world object = true ∧
          player.outOfRange world skillIndex object = false) := by
  unfold castAllowed
  cases htype : player.targetType skillIndex with
  | none =>
    rw [Bool.and_true, Bool.and_eq_true, Bool.and_eq_true, Bool.not_eq_true', and_assoc]
    refine and_congr_right fun _ => and_congr_right fun _ => ?_
    exact ⟨fun h => ⟨h, fun hsingle => nomatch hsingle⟩, And.left⟩
  | single =>
    cases target with
    | none =>
      rw [Bool.and_false]
      constructor
      · intro h
        cases h
      · rintro ⟨-, -, -, h⟩
        obtain ⟨object, hobject, -⟩ := h rfl
        cases hobject
    | some object =>
      simp only [Bool.and_eq_true, Bool.not_eq_true', and_assoc]
      refine and_congr_right fun _ => and_congr_right fun _ => and_congr_right fun _ => ?_
      constructor
      · rintro ⟨hvalid, hactive, hrange⟩ -
        exact ⟨object, rfl, hvalid, hactive, hrange⟩
      · intro h
        obtain ⟨_, hsame, hvalid⟩ := h trivial
        cases hsame
        exact hvalid

/-- The change of the state for a pending cast. -/
theorem executeStateChange_cast {skillIndex : Fin 4}
    (hpending : frame.machine.pendingSkillIndex = some skillIndex) :
    frame.executeStateChange player (skillStateForIndex skillIndex) =
      if frame.canEnter player (skillStateForIndex skillIndex) &&
          castAllowed player frame.world skillIndex frame.machine.pendingSkillTarget then
        ((frame.clearPending.useSkill player skillIndex
            frame.machine.pendingSkillTarget).enterState player (skillStateForIndex skillIndex),
          [.used skillIndex frame.machine.pendingSkillTarget])
      else (frame.clearPending, [.dropped skillIndex frame.machine.pendingSkillTarget]) := by
  have hfilter : frame.machine.pendingSkillIndex.filter
      (fun index => decide (skillStateForIndex index = skillStateForIndex skillIndex)) =
        some skillIndex := by
    rw [hpending]
    exact Option.filter_some_pos (decide_eq_true rfl)
  unfold executeStateChange
  dsimp only
  rw [hfilter]
  rfl

theorem executeStateChange_other {newState : PlayerStateType}
    (hother : ∀ skillIndex, frame.machine.pendingSkillIndex = some skillIndex →
      skillStateForIndex skillIndex ≠ newState) :
    frame.executeStateChange player newState =
      if frame.canEnter player newState then (frame.enterState player newState, [])
      else (frame, []) := by
  have hfilter : frame.machine.pendingSkillIndex.filter
      (fun index => decide (skillStateForIndex index = newState)) = none := by
    cases hindex : frame.machine.pendingSkillIndex with
    | none => rfl
    | some skillIndex =>
      exact Option.filter_some_neg (decide_eq_false (hother skillIndex hindex))
  unfold executeStateChange
  dsimp only
  rw [hfilter]

theorem pendingCast_of_index {skillIndex : Fin 4}
    (h : frame.machine.pendingSkillIndex = some skillIndex) :
    frame.pendingCast = some (skillIndex, frame.machine.pendingSkillTarget) := by
  unfold pendingCast
  rw [h]
  rfl

theorem index_of_pendingCast {skillIndex : Fin 4} {target : Option τ}
    (h : frame.pendingCast = some (skillIndex, target)) :
    frame.machine.pendingSkillIndex = some skillIndex ∧
      frame.machine.pendingSkillTarget = target := by
  obtain ⟨index, hindex, hpair⟩ := Option.map_eq_some_iff.mp h
  cases hpair
  exact ⟨hindex, rfl⟩

/-- The frame whose machine has taken the next change from its queue. -/
def popChange (frame : PlayerFrame ω τ) (stateChangeQueue : List PlayerStateType) :
    PlayerFrame ω τ :=
  { frame with machine := { frame.machine with stateChangeQueue } }

/-- The next change is the one of the pending cast. -/
theorem stepLaw_cast {skillIndex : Fin 4} {queue : List PlayerStateType}
    (hqueue : frame.machine.stateChangeQueue = skillStateForIndex skillIndex :: queue)
    (hindex : frame.machine.pendingSkillIndex = some skillIndex) :
    StepLaw player frame .executeNext
      ((frame.popChange queue).executeStateChange player (skillStateForIndex skillIndex)).1
      ((frame.popChange queue).executeStateChange player (skillStateForIndex skillIndex)).2 := by
  have hpending := pendingCast_of_index hindex
  have hpopped : (frame.popChange queue).machine.pendingSkillIndex = some skillIndex := hindex
  have hsame : ∀ {other target}, frame.pendingCast = some (other, target) →
      other = skillIndex ∧ target = frame.machine.pendingSkillTarget := by
    intro other target h
    cases hpending.symm.trans h
    exact ⟨rfl, rfl⟩
  rw [executeStateChange_cast hpopped]
  split
  next hallowed =>
    obtain ⟨henter, hcast⟩ := Bool.and_eq_true_iff.mp hallowed
    obtain ⟨-, husable, hcooldown, hrange⟩ := castAllowed_iff.mp hcast
    obtain ⟨-, htransition⟩ := Bool.and_eq_true_iff.mp henter
    constructor
    · rw [hpending]
      exact .used (.nil _)
    · intro other target hmem
      cases List.mem_singleton.mp hmem
      refine ⟨rfl, rfl, hpending, ?_, htransition, husable, hcooldown, hrange, rfl, rfl, rfl⟩
      rw [hqueue]
      rfl
    · intro other target _ hother _ _ _
      obtain ⟨rfl, rfl⟩ := hsame hother
      exact List.mem_singleton.mpr rfl
    · exact fun hnot => absurd (List.mem_singleton.mpr rfl) (hnot _ _)
    · exact fun _ h => nomatch h
    · intro other target hmem
      cases List.mem_singleton.mp hmem
  next hrefused =>
    constructor
    · rw [hpending]
      exact .dropped (.nil _)
    · intro other target hmem
      cases List.mem_singleton.mp hmem
    · intro other target _ hother _ henter hcast
      obtain ⟨rfl, rfl⟩ := hsame hother
      exact absurd (Bool.and_eq_true_iff.mpr ⟨henter, hcast⟩) hrefused
    · exact fun _ => .unchanged _
    · exact fun _ h => nomatch h
    · exact fun _ _ _ => rfl

/-- The next change is another one. -/
theorem stepLaw_change {newState : PlayerStateType} {queue : List PlayerStateType}
    (hqueue : frame.machine.stateChangeQueue = newState :: queue)
    (hother : ∀ skillIndex, frame.machine.pendingSkillIndex = some skillIndex →
      skillStateForIndex skillIndex ≠ newState) :
    StepLaw player frame .executeNext
      ((frame.popChange queue).executeStateChange player newState).1
      ((frame.popChange queue).executeStateChange player newState).2 := by
  have hnotNext : ∀ {skillIndex target}, frame.pendingCast = some (skillIndex, target) →
      frame.machine.stateChangeQueue.head? ≠ some (skillStateForIndex skillIndex) := by
    intro skillIndex target hpending hhead
    rw [hqueue] at hhead
    exact hother skillIndex (index_of_pendingCast hpending).1 (Option.some.inj hhead).symm
  have hquiet : ∀ {after : PlayerFrame ω τ}, after.pendingCast = frame.pendingCast →
      NoSkill player frame .executeNext after.world →
      StepLaw player frame .executeNext after [] := by
    intro after hpending hworld
    exact {
      history := hpending ▸ .nil _
      used := fun _ _ h => nomatch h
      accepted := fun _ _ _ hcast hhead => absurd hhead (hnotNext hcast)
      notUsed := fun _ => hworld
      press := fun _ h => nomatch h
      dropped := fun _ _ h => nomatch h }
  have hpopped : ∀ skillIndex,
      (frame.popChange queue).machine.pendingSkillIndex = some skillIndex →
        skillStateForIndex skillIndex ≠ newState := hother
  rw [executeStateChange_other hpopped]
  split
  next => exact hquiet rfl (.changed newState)
  next => exact hquiet rfl (.unchanged _)

/-- Every call obeys the law of a step. -/
theorem stepLaw_call (player : PlayerWorld ω τ) (frame : PlayerFrame ω τ)
    (event : PlayerCall ω τ) :
    StepLaw player frame event (frame.call player event).1 (frame.call player event).2 := by
  cases event with
  | start =>
    dsimp only [call]
    split
    next => exact stepLaw_quiet (fun h => nomatch h) rfl .started fun _ h => nomatch h
    next => exact stepLaw_quiet (fun h => nomatch h) rfl (.unchanged _) fun _ h => nomatch h
  | skillInput input => exact stepLaw_skillInput input
  | requestStateChange target newState =>
    exact stepLaw_quiet (fun h => nomatch h) rfl (.unchanged _) fun _ h => nomatch h
  | triggerStateChange target newState =>
    obtain ⟨hpending, hworld⟩ :=
      handleStateChangeRequest_keeps frame (target, newState)
    refine stepLaw_quiet (fun h => nomatch h) hpending ?_ fun _ h => nomatch h
    rw [show (frame.call player (.triggerStateChange target newState)).1.world = _ from hworld]
    exact .unchanged _
  | deliver =>
    obtain ⟨hpending, hworld⟩ := deliver_keeps frame
    refine stepLaw_quiet (fun h => nomatch h) hpending ?_ fun _ h => nomatch h
    rw [show (frame.call player .deliver).1.world = _ from hworld]
    exact .unchanged _
  | executeNext =>
    dsimp only [call]
    cases hqueue : frame.machine.stateChangeQueue with
    | nil =>
      exact {
        history := .nil _
        used := fun _ _ h => nomatch h
        accepted := fun _ _ _ _ hhead => by rw [hqueue] at hhead; cases hhead
        notUsed := fun _ => .unchanged _
        press := fun _ _ => rfl
        dropped := fun _ _ h => nomatch h }
    | cons newState queue =>
      by_cases hcast : ∃ skillIndex, frame.machine.pendingSkillIndex = some skillIndex ∧
          skillStateForIndex skillIndex = newState
      · obtain ⟨skillIndex, hindex, rfl⟩ := hcast
        exact stepLaw_cast hqueue hindex
      · exact stepLaw_change hqueue fun skillIndex hindex heq =>
          hcast ⟨skillIndex, hindex, heq⟩
  | worldChange world =>
    exact stepLaw_quiet (fun h => nomatch h) rfl (.outside world) fun _ h => nomatch h

/-! ## The request of a pending cast -/

theorem PendingQueued.request (h : frame.PendingQueued) (target : GameObjectId)
    (newState : PlayerStateType) :
    (frame.requestStateChange target newState).PendingQueued := by
  intro skillIndex hindex
  rcases h skillIndex hindex with hqueue | hevent
  · exact .inl hqueue
  · exact .inr (List.mem_append_left _ hevent)

theorem PendingQueued.handle (h : frame.PendingQueued)
    (request : GameObjectId × PlayerStateType) :
    (frame.handleStateChangeRequest request).PendingQueued := by
  unfold handleStateChangeRequest
  split
  · intro skillIndex hindex
    rcases h skillIndex hindex with hqueue | hevent
    · exact .inl (List.mem_append_left _ hqueue)
    · exact .inr hevent
  · exact h

theorem PendingQueued.deliver (h : frame.PendingQueued) : frame.deliver.PendingQueued := by
  unfold PlayerFrame.deliver
  split
  next => exact h
  next request eventQueue hevents =>
    unfold handleStateChangeRequest
    split
    next hown =>
      intro skillIndex hindex
      rcases h skillIndex hindex with hqueue | hevent
      · exact .inl (List.mem_append_left _ hqueue)
      · rw [hevents] at hevent
        rcases List.mem_cons.mp hevent with hhead | htail
        · left
          rw [← hhead]
          exact List.mem_append_right _ (List.mem_singleton.mpr rfl)
        · exact .inr htail
    next hother =>
      intro skillIndex hindex
      rcases h skillIndex hindex with hqueue | hevent
      · exact .inl hqueue
      · rw [hevents] at hevent
        rcases List.mem_cons.mp hevent with hhead | htail
        · exact absurd (congrArg Prod.fst hhead).symm hother
        · exact .inr htail

theorem PendingQueued.skillInput (h : frame.PendingQueued) (input : SkillInput τ) :
    (frame.handleSkillInput player input).1.PendingQueued := by
  rcases handleSkillInput_cases player frame input with
    hnothing | ⟨skillIndex, target, -, hqueued⟩
  · rw [hnothing]
    exact h
  · rw [hqueued]
    intro other hother
    cases hother
    exact .inr (List.mem_append_right _ (List.mem_singleton.mpr rfl))

/-- The change that is taken from the queue is the one of the pending cast, which it ends,
or leaves its request where it is. -/
theorem PendingQueued.execute (h : frame.PendingQueued) {newState : PlayerStateType}
    {queue : List PlayerStateType}
    (hqueue : frame.machine.stateChangeQueue = newState :: queue) :
    ((frame.popChange queue).executeStateChange player newState).1.PendingQueued := by
  by_cases hcast : ∃ skillIndex, frame.machine.pendingSkillIndex = some skillIndex ∧
      skillStateForIndex skillIndex = newState
  · obtain ⟨skillIndex, hindex, rfl⟩ := hcast
    have hpopped : (frame.popChange queue).machine.pendingSkillIndex = some skillIndex := hindex
    rw [executeStateChange_cast hpopped]
    split
    · intro other hother
      cases hother
    · intro other hother
      cases hother
  · have hother : ∀ skillIndex, frame.machine.pendingSkillIndex = some skillIndex →
        skillStateForIndex skillIndex ≠ newState := fun skillIndex hindex heq =>
      hcast ⟨skillIndex, hindex, heq⟩
    have hpopped : (frame.popChange queue).PendingQueued := by
      intro skillIndex hindex
      rcases h skillIndex hindex with hmem | hevent
      · rw [hqueue] at hmem
        rcases List.mem_cons.mp hmem with hhead | htail
        · exact absurd hhead (hother skillIndex hindex)
        · exact .inl htail
      · exact .inr hevent
    have hothers : ∀ skillIndex,
        (frame.popChange queue).machine.pendingSkillIndex = some skillIndex →
          skillStateForIndex skillIndex ≠ newState := hother
    rw [executeStateChange_other hothers]
    split
    · exact hpopped
    · exact hpopped

theorem PendingQueued.call (h : frame.PendingQueued) (event : PlayerCall ω τ) :
    (frame.call player event).1.PendingQueued := by
  cases event with
  | start =>
    dsimp only [PlayerFrame.call]
    split
    · exact h
    · exact h
  | skillInput input => exact h.skillInput input
  | requestStateChange target newState => exact h.request target newState
  | triggerStateChange target newState => exact h.handle (target, newState)
  | deliver => exact h.deliver
  | executeNext =>
    dsimp only [PlayerFrame.call]
    split
    next => exact h
    next newState queue hqueue => exact h.execute hqueue
  | worldChange world => exact h

end Steps

/-! ## Runs -/

/-- In every run the casts are queued one at a time and used or dropped once, every call
obeys the law of a step, and a pending cast has its request in a queue. -/
theorem skill_admission (player : PlayerWorld ω τ) (start : PlayerFrame ω τ)
    (h : start.PendingQueued) (calls : List (PlayerCall ω τ)) :
    CastHistory start.pendingCast (replies (call player) start calls).flatten
        (after (call player) start calls).pendingCast ∧
      (after (call player) start calls).PendingQueued ∧
      Meets (fun frame event => (call player frame event).1)
        (fun frame event => StepLaw player frame event (frame.call player event).1
          (frame.call player event).2) start calls := by
  induction calls generalizing start with
  | nil => exact ⟨.nil _, h, trivial⟩
  | cons event calls ih =>
    have hstep := stepLaw_call player start event
    obtain ⟨hhistory, hqueued, hlaws⟩ := ih _ (h.call event)
    exact ⟨hstep.history.append hhistory, hqueued, hstep, hlaws⟩

/-! ### A change that comes first -/

section Example

/-- Every state is registered and every change allowed; the world counts the skills used. -/
def easyPlayer : PlayerWorld Nat Nat where
  registered := fun _ => true
  hasPlayerInterface := true
  canTransitionTo := fun _ _ _ => true
  canUseSkill := fun _ _ => true
  skillCoolingDown := fun _ _ => false
  targetType := fun _ => .none
  isValidAttackTarget := fun _ _ => true
  getActive := fun _ _ => true
  outOfRange := fun _ _ _ => false
  enter := fun _ world => world
  exit := fun _ world => world
  stopNavigation := id
  onSkillUsed := fun _ _ world => world + 1
  requestAnimation := fun _ world => world
  triggerStateChanged := fun _ _ world => world

/-- A player that stands. -/
def standing : PlayerFrame Nat Nat where
  machine := { gameObject := 1, currentState := some .wait }
  world := 0

def pressQ : SkillInput Nat where
  control := false
  buttonDown := fun skillIndex => skillIndex = 0
  checkTargetForSkill := fun _ => true
  pickedTarget := none

theorem skill_admission_standing :
    CastHistory none (replies (call easyPlayer) standing [.skillInput pressQ]).flatten
      (after (call easyPlayer) standing [.skillInput pressQ]).pendingCast :=
  (skill_admission easyPlayer standing (fun _ h => nomatch h) [.skillInput pressQ]).1

/-- The run that was requested before the press is entered first, and the cast whose press
found the player standing is still used. -/
theorem overtaken_cast_used :
    let calls : List (PlayerCall Nat Nat) := [.requestStateChange 1 .run,
      .skillInput pressQ, .deliver, .deliver, .executeNext, .executeNext]
    replies (call easyPlayer) standing calls =
        [[], [.queued 0 none], [], [], [], [.used 0 none]] ∧
      (after (call easyPlayer) standing (calls.take 5)).machine.currentState = some .run ∧
      (after (call easyPlayer) standing calls).world = 1 := by
  decide

end Example

end PlayerFrame

end SurvivalArena
