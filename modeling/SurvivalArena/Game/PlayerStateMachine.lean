import SurvivalArena.Game.StateMachines

/-!
# The player's state machine

The requests for a change of state, the press of a skill key and the change itself.  The
states, the player and the objects of the scene are a world that the machine reads and
calls; a request that one of these calls makes comes as a request of its own right after.
-/

namespace SurvivalArena

open Machine

inductive SkillTargetType where
  | none
  | single
deriving DecidableEq

/-- What the machine asks of the world `ω` and calls in it; `τ` are the targets. -/
structure PlayerWorld (ω τ : Type) where
  registered : PlayerStateType → Bool
  hasPlayerInterface : Bool
  /-- The answer of the state of the first type, by `CanTransitionTo`. -/
  canTransitionTo : ω → PlayerStateType → PlayerStateType → Bool
  canUseSkill : ω → Fin 4 → Bool
  /-- `GetCurSkillCooldown` is above zero. -/
  skillCoolingDown : ω → Fin 4 → Bool
  targetType : Fin 4 → SkillTargetType
  isValidAttackTarget : ω → τ → Bool
  getActive : ω → τ → Bool
  /-- The distance to the target is above the range of the skill. -/
  outOfRange : ω → Fin 4 → τ → Bool
  enter : PlayerStateType → ω → ω
  exit : PlayerStateType → ω → ω
  stopNavigation : ω → ω
  onSkillUsed : Fin 4 → Option τ → ω → ω
  requestAnimation : Fin 4 → ω → ω
  triggerStateChanged : PlayerStateType → PlayerStateType → ω → ω

structure PlayerStateMachine (τ : Type) where
  gameObject : GameObjectId
  currentState : Option PlayerStateType := none
  stateChangeQueue : List PlayerStateType := []
  pendingSkillIndex : Option (Fin 4) := none
  pendingSkillTarget : Option τ := none

def skillStateForIndex : Fin 4 → PlayerStateType
  | 0 => .skill1
  | 1 => .skill2
  | 2 => .skill3
  | 3 => .skill4

/-- The machine, the requests for a change of a player's state in the queue of the event
manager, and the world. -/
structure PlayerFrame (ω τ : Type) where
  machine : PlayerStateMachine τ
  eventQueue : List (GameObjectId × PlayerStateType) := []
  world : ω

/-- What the input of one frame says about the skill keys. -/
structure SkillInput (τ : Type) where
  control : Bool
  buttonDown : Fin 4 → Bool
  checkTargetForSkill : Fin 4 → Bool
  pickedTarget : Option τ

/-- What becomes of a cast. -/
inductive CastEvent (τ : Type) where
  | queued (skillIndex : Fin 4) (target : Option τ)
  | used (skillIndex : Fin 4) (target : Option τ)
  | dropped (skillIndex : Fin 4) (target : Option τ)
deriving DecidableEq

namespace PlayerFrame

variable {ω τ : Type}

def getCurrentState (frame : PlayerFrame ω τ) : PlayerStateType :=
  frame.machine.currentState.getD .wait

def canChangeState (player : PlayerWorld ω τ) (frame : PlayerFrame ω τ)
    (newState : PlayerStateType) : Bool :=
  match frame.machine.currentState with
  | none => true
  | some state => player.canTransitionTo frame.world state newState

/-! ## Requests -/

/-- A request names the object whose machine is to change. -/
def requestStateChange (frame : PlayerFrame ω τ) (target : GameObjectId)
    (newState : PlayerStateType) : PlayerFrame ω τ :=
  { frame with eventQueue := frame.eventQueue ++ [(target, newState)] }

def handleStateChangeRequest (frame : PlayerFrame ω τ)
    (request : GameObjectId × PlayerStateType) : PlayerFrame ω τ :=
  if request.1 = frame.machine.gameObject then
    { frame with
      machine := { frame.machine with
        stateChangeQueue := frame.machine.stateChangeQueue ++ [request.2] } }
  else frame

/-- The event manager hands on the next request in its queue. -/
def deliver (frame : PlayerFrame ω τ) : PlayerFrame ω τ :=
  match frame.eventQueue with
  | [] => frame
  | request :: eventQueue => { frame with eventQueue }.handleStateChangeRequest request

/-! ## Skills -/

def queueSkillCast (player : PlayerWorld ω τ) (frame : PlayerFrame ω τ)
    (skillIndex : Fin 4) (target : Option τ) : Option (PlayerFrame ω τ) :=
  if frame.machine.pendingSkillIndex.isSome || !player.hasPlayerInterface then none
  else
    let state := skillStateForIndex skillIndex
    if !player.registered state || !frame.canChangeState player state ||
        frame.getCurrentState = state || !player.canUseSkill frame.world skillIndex ||
        player.skillCoolingDown frame.world skillIndex then none
    else
      some ({ frame with
        machine := { frame.machine with
          pendingSkillIndex := some skillIndex
          pendingSkillTarget := target } }.requestStateChange frame.machine.gameObject state)

/-- The target that a key press gives a skill, where it may be cast. -/
def pickTarget (player : PlayerWorld ω τ) (input : SkillInput τ) (skillIndex : Fin 4) :
    Option (Option τ) :=
  match player.targetType skillIndex with
  | .none => some none
  | .single =>
    if input.checkTargetForSkill skillIndex then input.pickedTarget.map some else none

/-- The loop over the keys ends with the first cast that is queued. -/
def handleSkillKeys (player : PlayerWorld ω τ) (frame : PlayerFrame ω τ)
    (input : SkillInput τ) : List (Fin 4) → PlayerFrame ω τ × List (CastEvent τ)
  | [] => (frame, [])
  | skillIndex :: later =>
    if input.buttonDown skillIndex then
      match pickTarget player input skillIndex with
      | none => handleSkillKeys player frame input later
      | some target =>
        match frame.queueSkillCast player skillIndex target with
        | some frame => (frame, [.queued skillIndex target])
        | none => handleSkillKeys player frame input later
    else handleSkillKeys player frame input later

def handleSkillInput (player : PlayerWorld ω τ) (frame : PlayerFrame ω τ)
    (input : SkillInput τ) : PlayerFrame ω τ × List (CastEvent τ) :=
  if frame.machine.pendingSkillIndex.isSome || input.control then (frame, [])
  else frame.handleSkillKeys player input [0, 1, 2, 3]

/-! ## The change of the state -/

/-- The old state is left and the new one entered. -/
def enterState (player : PlayerWorld ω τ) (frame : PlayerFrame ω τ)
    (newState : PlayerStateType) : PlayerFrame ω τ :=
  let world := match frame.machine.currentState with
    | some state => player.exit state frame.world
    | none => frame.world
  { frame with
    machine := { frame.machine with currentState := some newState }
    world := player.triggerStateChanged frame.getCurrentState newState
      (player.enter newState world) }

def canEnter (player : PlayerWorld ω τ) (frame : PlayerFrame ω τ)
    (newState : PlayerStateType) : Bool :=
  player.registered newState && frame.canChangeState player newState

/-- The checks of a pending cast when its state is to be entered. -/
def castAllowed (player : PlayerWorld ω τ) (world : ω) (skillIndex : Fin 4)
    (target : Option τ) : Bool :=
  player.hasPlayerInterface && player.canUseSkill world skillIndex &&
    !player.skillCoolingDown world skillIndex &&
    match player.targetType skillIndex, target with
    | .none, _ => true
    | .single, none => false
    | .single, some target =>
      player.isValidAttackTarget world target && player.getActive world target &&
        !player.outOfRange world skillIndex target

def clearPending (frame : PlayerFrame ω τ) : PlayerFrame ω τ :=
  { frame with
    machine := { frame.machine with
      pendingSkillIndex := none
      pendingSkillTarget := none } }

def useSkill (player : PlayerWorld ω τ) (frame : PlayerFrame ω τ) (skillIndex : Fin 4)
    (target : Option τ) : PlayerFrame ω τ :=
  { frame with
    world := player.requestAnimation skillIndex
      (player.onSkillUsed skillIndex target (player.stopNavigation frame.world)) }

def executeStateChange (player : PlayerWorld ω τ) (frame : PlayerFrame ω τ)
    (newState : PlayerStateType) : PlayerFrame ω τ × List (CastEvent τ) :=
  let target := frame.machine.pendingSkillTarget
  match frame.machine.pendingSkillIndex.filter (skillStateForIndex · = newState) with
  | some skillIndex =>
    let frame := frame.clearPending
    if frame.canEnter player newState && castAllowed player frame.world skillIndex target then
      ((frame.useSkill player skillIndex target).enterState player newState,
        [.used skillIndex target])
    else (frame, [.dropped skillIndex target])
  | none =>
    if frame.canEnter player newState then (frame.enterState player newState, [])
    else (frame, [])

end PlayerFrame

/-! ## Runs -/

inductive PlayerCall (ω τ : Type) where
  | start
  | skillInput (input : SkillInput τ)
  | requestStateChange (target : GameObjectId) (newState : PlayerStateType)
  /-- The event of a request is triggered without the queue. -/
  | triggerStateChange (target : GameObjectId) (newState : PlayerStateType)
  /-- The event manager hands on one request. -/
  | deliver
  /-- The update takes one change from the machine's queue. -/
  | executeNext
  /-- Stamina, cooldowns, targets and everything else. -/
  | worldChange (world : ω)

namespace PlayerFrame

variable {ω τ : Type}

def call (player : PlayerWorld ω τ) (frame : PlayerFrame ω τ) :
    PlayerCall ω τ → PlayerFrame ω τ × List (CastEvent τ)
  | .start =>
    if player.registered .wait then
      ({ frame with
        machine := { frame.machine with currentState := some .wait }
        world := player.enter .wait frame.world }, [])
    else (frame, [])
  | .skillInput input => frame.handleSkillInput player input
  | .requestStateChange target newState => (frame.requestStateChange target newState, [])
  | .triggerStateChange target newState =>
    (frame.handleStateChangeRequest (target, newState), [])
  | .deliver => (frame.deliver, [])
  | .executeNext =>
    match frame.machine.stateChangeQueue with
    | [] => (frame, [])
    | newState :: stateChangeQueue =>
      { frame with machine := { frame.machine with stateChangeQueue } }.executeStateChange
        player newState
  | .worldChange world => ({ frame with world }, [])

end PlayerFrame

end SurvivalArena
