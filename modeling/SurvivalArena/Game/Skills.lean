import SurvivalArena.Game.StateMachines

/-!
# The skills of the characters

What the base class and the skills of Nicky and Bianca do to stamina and cooldown; their
effects, sounds and animations are left out.  The numbers are exact: the floats of the
source are elements of an ordered field.  Where a skill ends by what an animation or a
movement does, the end is a call of its own, so that a run may make it at any time.
-/

namespace SurvivalArena

variable {K : Type} [Field K] [LinearOrder K]

/-! ## Progression -/

namespace SkillProgression

def rankSteps (rank maxRank : Int) : Int := max 1 (min rank (max 1 maxRank)) - 1

def percent (rank maxRank : Int) : Int := max 50 (100 - 10 * rankSteps rank maxRank)

def cooldown (base : K) (rank maxRank : Int) (equipmentReduction : K) : K :=
  let itemFactor := 1 - max 0 (min equipmentReduction (8 / 10))
  max (1 / 10) (base * percent rank maxRank / 100 * itemFactor)

def staminaCost (base rank maxRank : Int) : Int :=
  (max 0 base * percent rank maxRank + 99) / 100

end SkillProgression

/-! ## The state of a skill -/

structure BaseSkill (K : Type) [Zero K] where
  skillIndex : Fin 4
  skillCooldown : K
  skillcurCooldown : K := 0
  baseStaminaCost : Int := 0
  progressionEnabled : Bool := false
  castInProgress : Bool := false
  cooldownStarted : Bool := false
  curSkillLevel : Int := 0
  maxSkillLevel : Int := 5

/-- The classes of the skills, with the fields that their cooldown depends on.  Nicky's four
skills play without touching it. -/
inductive SkillClass (K : Type) where
  | nicky
  | biancaQ
  | biancaW (isPlaying : Bool) (repeatKey elapsedTime skillTimer : K)
  | biancaE
  | biancaR (skillFlag phaseTwo : Bool) (drainEffectElapsedTime innerCircleElapsedTime : K)

/-- What a skill reads and changes of its player. -/
structure SkillPlayer (K : Type) where
  stamina : Int
  maxStamina : Int
  cooldownReduction : K
  currentState : PlayerStateType

/-- A skill of a player and the time that has passed. -/
structure PlayerSkill (K : Type) [Zero K] where
  player : SkillPlayer K
  skill : BaseSkill K
  skillClass : SkillClass K
  clock : K

/-- What a step of a run says about the skill. -/
inductive SkillRecord (K : Type) where
  | cast (time : K)
  | cooldownStart (time length : K)
deriving DecidableEq

def stateOfSkill : Fin 4 → PlayerStateType
  | 0 => .skill1
  | 1 => .skill2
  | 2 => .skill3
  | 3 => .skill4

namespace BaseSkill

def configureProgression (skill : BaseSkill K) (staminaCost : Int) : BaseSkill K :=
  { skill with
    baseStaminaCost := max 0 staminaCost
    progressionEnabled := true }

def getStaminaCost (skill : BaseSkill K) : Int :=
  if skill.progressionEnabled then
    SkillProgression.staminaCost skill.baseStaminaCost skill.curSkillLevel skill.maxSkillLevel
  else 0

def skillLevelUp (skill : BaseSkill K) : BaseSkill K :=
  { skill with curSkillLevel := min (skill.curSkillLevel + 1) skill.maxSkillLevel }

def updateCooldown (skill : BaseSkill K) (deltaTime : K) : BaseSkill K :=
  if 0 < skill.skillcurCooldown then
    { skill with skillcurCooldown := max 0 (skill.skillcurCooldown - deltaTime) }
  else skill

def canExecuteSkill (skill : BaseSkill K) (player : SkillPlayer K) : Bool :=
  0 < skill.curSkillLevel && skill.skillcurCooldown ≤ 0 && !skill.castInProgress &&
    skill.getStaminaCost ≤ player.stamina

end BaseSkill

namespace SkillPlayer

def setStamina (player : SkillPlayer K) (value : Int) : SkillPlayer K :=
  { player with stamina := min value player.maxStamina }

end SkillPlayer

/-! ## The calls -/

namespace PlayerSkill

/-- The cooldown starts, but with progression only once for each cast. -/
def skillEnd (state : PlayerSkill K) : PlayerSkill K × List (SkillRecord K) :=
  if state.skill.progressionEnabled && state.skill.cooldownStarted then (state, [])
  else
    let length :=
      if state.skill.progressionEnabled then
        SkillProgression.cooldown state.skill.skillCooldown state.skill.curSkillLevel
          state.skill.maxSkillLevel state.player.cooldownReduction
      else state.skill.skillCooldown * (1 - state.player.cooldownReduction)
    ({ state with
      skill := { state.skill with
        skillcurCooldown := length
        cooldownStarted := state.skill.progressionEnabled || state.skill.cooldownStarted } },
      [.cooldownStart state.clock length])

/-- A cast is over once the player is in another state. -/
def updateSkillCoolDown (state : PlayerSkill K) (deltaTime : K) :
    PlayerSkill K × List (SkillRecord K) :=
  let state := { state with skill := state.skill.updateCooldown deltaTime }
  if state.skill.progressionEnabled && state.skill.castInProgress &&
      state.player.currentState != stateOfSkill state.skill.skillIndex then
    let (state, records) := state.skillEnd
    ({ state with skill := { state.skill with castInProgress := false } }, records)
  else (state, [])

def playSkill (state : PlayerSkill K) : PlayerSkill K × List (SkillRecord K) :=
  match state.skillClass with
  | .nicky => (state, [])
  | .biancaQ => (state, [])
  | .biancaW true repeatKey _ skillTimer =>
    if repeatKey < 1 / 4 then (state, [])
    else { state with skillClass := .biancaW false 0 0 skillTimer }.skillEnd
  | .biancaW false repeatKey elapsedTime skillTimer =>
    if state.skill.skillcurCooldown ≤ 0 then
      ({ state with skillClass := .biancaW true repeatKey elapsedTime skillTimer }, [])
    else (state, [])
  | .biancaE => (state, [])
  | .biancaR skillFlag _ drainEffectElapsedTime innerCircleElapsedTime =>
    if 0 < state.skill.skillcurCooldown || skillFlag then (state, [])
    else
      { state with
        skillClass :=
          .biancaR true false drainEffectElapsedTime innerCircleElapsedTime }.skillEnd

def executeSkill (state : PlayerSkill K) : PlayerSkill K × List (SkillRecord K) :=
  if state.skill.canExecuteSkill state.player then
    if state.skill.progressionEnabled then
      { state with
        player := state.player.setStamina (state.player.stamina - state.skill.getStaminaCost)
        skill := { state.skill with
          castInProgress := true
          cooldownStarted := false } }.playSkill
    else state.playSkill
  else (state, [])

/-- `OnSkillUsed` of the characters: Nicky executes the skill, Bianca plays it. -/
def onSkillUsed (state : PlayerSkill K) : PlayerSkill K × List (SkillRecord K) :=
  match state.skillClass with
  | .nicky => state.executeSkill
  | _ => state.playSkill

/-- The state machine accepts a cast when the skill is usable and cooled down. -/
def castAccepted (state : PlayerSkill K) : Bool :=
  state.skill.canExecuteSkill state.player && !(0 < state.skill.skillcurCooldown)

/-- An accepted cast uses the skill and enters its state. -/
def cast (state : PlayerSkill K) : PlayerSkill K × List (SkillRecord K) :=
  if state.castAccepted then
    let (after, records) := state.onSkillUsed
    ({ after with
      player := { after.player with currentState := stateOfSkill state.skill.skillIndex } },
      .cast state.clock :: records)
  else (state, [])

/-- The update of the skill in a frame. -/
def update (state : PlayerSkill K) (deltaTime : K) : PlayerSkill K × List (SkillRecord K) :=
  match state.skillClass with
  | .nicky => state.updateSkillCoolDown deltaTime
  | .biancaQ =>
    ({ state with
      skill := { state.skill with
        skillcurCooldown := state.skill.skillcurCooldown - deltaTime } }, [])
  | .biancaW isPlaying repeatKey elapsedTime skillTimer =>
    if 101 / 25 / 2 ≤ skillTimer + deltaTime then
      ({ state with skillClass := .biancaW isPlaying repeatKey elapsedTime 0 }, [])
    else if isPlaying then
      let state := { state with
        skillClass := .biancaW isPlaying (repeatKey + deltaTime) (elapsedTime + deltaTime)
          (skillTimer + deltaTime) }
      if 3 ≤ elapsedTime + deltaTime then state.playSkill else (state, [])
    else
      ({ state with
        skill := { state.skill with
          skillcurCooldown := state.skill.skillcurCooldown - deltaTime }
        skillClass := .biancaW isPlaying repeatKey elapsedTime (skillTimer + deltaTime) }, [])
  | .biancaE =>
    if state.skill.curSkillLevel ≤ 0 then (state, [])
    else
      ({ state with
        skill := { state.skill with
          skillcurCooldown := state.skill.skillcurCooldown - deltaTime } }, [])
  | .biancaR skillFlag phaseTwo drainEffectElapsedTime innerCircleElapsedTime =>
    let (state, records) := state.updateSkillCoolDown deltaTime
    if skillFlag && !phaseTwo && drainEffectElapsedTime < 2 then
      ({ state with
        skillClass := .biancaR true false (drainEffectElapsedTime + deltaTime)
          innerCircleElapsedTime }, records)
    else if skillFlag then
      -- the second phase begins in the same frame
      if innerCircleElapsedTime < 5 / 2 then
        ({ state with
          skillClass := .biancaR true true drainEffectElapsedTime
            (innerCircleElapsedTime + deltaTime) }, records)
      else ({ state with skillClass := .biancaR false false 0 0 }, records)
    else (state, records)

end PlayerSkill

/-! ## Runs -/

inductive SkillCall (K : Type) where
  /-- The turn of a cast whose key was pressed. -/
  | cast
  | frame (deltaTime : K)
  | skillEnd
  | skillLevelUp
  | stateChange (newState : PlayerStateType)
  /-- Equipment is put on or taken off, or a level gained: the stamina becomes the share of
  its maximum that another field of the status gives. -/
  | statusChange (maxStamina stamina : Int) (cooldownReduction : K)
  /-- The key that takes ten of the stamina. -/
  | controlStamina

namespace PlayerSkill

def call (state : PlayerSkill K) : SkillCall K → PlayerSkill K × List (SkillRecord K)
  | .cast => state.cast
  | .frame deltaTime => { state with clock := state.clock + deltaTime }.update deltaTime
  | .skillEnd => state.skillEnd
  | .skillLevelUp =>
    ({ state with
      skill := if state.skill.curSkillLevel < state.skill.maxSkillLevel then
          state.skill.skillLevelUp
        else state.skill }, [])
  | .stateChange newState =>
    ({ state with player := { state.player with currentState := newState } }, [])
  | .statusChange maxStamina stamina cooldownReduction =>
    ({ state with
      player := { state.player with maxStamina, stamina, cooldownReduction } }, [])
  | .controlStamina =>
    ({ state with player := state.player.setStamina (state.player.stamina - 10) }, [])

end PlayerSkill

/-! ## The playable characters -/

def nickySkill (skillIndex : Fin 4) (skillCooldown : K) (staminaCost maxSkillLevel : Int) :
    BaseSkill K × SkillClass K :=
  (({ skillIndex, skillCooldown, maxSkillLevel } : BaseSkill K).configureProgression
    staminaCost, .nicky)

def nickyQSkill : BaseSkill K × SkillClass K := nickySkill 0 5 30 5
def nickyWSkill : BaseSkill K × SkillClass K := nickySkill 1 5 25 5
def nickyESkill : BaseSkill K × SkillClass K := nickySkill 2 5 40 5
def nickyRSkill : BaseSkill K × SkillClass K := nickySkill 3 10 70 3

def biancaQSkill : BaseSkill K × SkillClass K :=
  ({ skillIndex := 0, skillCooldown := 10 }, .biancaQ)

def biancaWSkill : BaseSkill K × SkillClass K :=
  ({ skillIndex := 1, skillCooldown := 10 }, .biancaW false 0 0 0)

def biancaESkill : BaseSkill K × SkillClass K :=
  ({ skillIndex := 2, skillCooldown := 3 }, .biancaE)

def biancaRSkill : BaseSkill K × SkillClass K :=
  ({ skillIndex := 3, skillCooldown := 25, maxSkillLevel := 3 }, .biancaR false false 0 0)

def playableSkills : List (BaseSkill K × SkillClass K) :=
  [nickyQSkill, nickyWSkill, nickyESkill, nickyRSkill,
    biancaQSkill, biancaWSkill, biancaESkill, biancaRSkill]

/-- A skill of a player at the start. -/
def PlayerSkill.initial (skill : BaseSkill K × SkillClass K) (player : SkillPlayer K) :
    PlayerSkill K where
  player := player
  skill := skill.1
  skillClass := skill.2
  clock := 0

end SurvivalArena
