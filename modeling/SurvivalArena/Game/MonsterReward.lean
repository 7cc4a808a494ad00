import SurvivalArena.Game.PlayerDamage

/-!
# The rewards for monsters

Monsters are hit, queue what they are worth, and the players that killed them are granted
the experience when the queue is worked off.  Numbers are exact and `int32`s integers.
-/

namespace SurvivalArena

open Function

inductive ObjectType where
  | default
  | map
  | player
  | monster
  | dieMonster
  | environment
  | itemBox
deriving DecidableEq

/-- An experience reward for the one that killed a monster. -/
structure ExpReward where
  killer : Option GameObjectId
  expAmount : Nat
  killedMonster : GameObjectId
deriving DecidableEq

/-- What monsters queue in the event manager. -/
inductive MonsterEvent where
  | expReward (reward : ExpReward)
  | monsterStateChangeRequest (target : GameObjectId) (newState : MonsterStateType)
  | animationStateChangeRequest (target : GameObjectId) (newState : AnimationStateType)
deriving DecidableEq

structure Monster (K : Type) [Zero K] where
  hp : Int := 200
  isStun : K := 0
  isDead : Bool := false
  type : ObjectType := .monster
  healthBarVisible : Bool := true
  targetPlayer : Option GameObjectId := none
  /-- The state of the monster's machine and its target, where it has a machine. -/
  stateMachine : Option (MonsterStateType × Option GameObjectId) := none
  hasAnimation : Bool := false

/-- The players have all subscribed to the rewards. -/
structure MonsterWorld (K : Type) [Zero K] where
  monsters : GameObjectId → Monster K
  players : GameObjectId → LevelPlayer K
  /-- Which objects are active and players. -/
  isActivePlayer : GameObjectId → Bool
  eventQueue : List MonsterEvent := []

/-- Every monster is worth the same. -/
def calculateExpReward : Nat := 500

/-- The damage that a monster takes: its defense is a hundred. -/
def monsterDamage (damage : Int) : Int := (damage * 100).tdiv 100

variable {K : Type} [Field K] [LinearOrder K]

/-- `Damaged` by a skill with a stun. -/
def Monster.damagedInfo (monster : Monster K) (damage : DamageInfo K) : Monster K :=
  let monsterHP := monster.hp - monsterDamage damage.damage
  let isStun := if monsterHP ≤ 0 then 1 else monster.isStun
  { monster with
    targetPlayer := damage.attacker
    healthBarVisible := if monsterHP ≤ 0 then false else monster.healthBarVisible
    isStun := if 0 < damage.stunTime then max isStun damage.stunTime else isStun
    type := if 0 < damage.stunTime then .itemBox else monster.type
    hp := monsterHP }

namespace MonsterWorld

def setMonster (world : MonsterWorld K) (id : GameObjectId) (monster : Monster K) :
    MonsterWorld K :=
  { world with monsters := update world.monsters id monster }

def queueEvent (world : MonsterWorld K) (event : MonsterEvent) : MonsterWorld K :=
  { world with eventQueue := world.eventQueue ++ [event] }

/-- The one who hits a monster becomes its target. -/
def retarget (world : MonsterWorld K) (id : GameObjectId) (attacker : Option GameObjectId) :
    MonsterWorld K :=
  match attacker, (world.monsters id).stateMachine with
  | some player, some (currentState, _) =>
    if world.isActivePlayer player then
      let world := world.setMonster id
        { world.monsters id with stateMachine := some (currentState, some player) }
      if currentState = .attack ∨ currentState = .trace then world
      else
        let world := world.queueEvent (.monsterStateChangeRequest id .trace)
        if (world.monsters id).hasAnimation then
          world.queueEvent (.animationStateChangeRequest id .trace)
        else world
    else world
  | _, _ => world

def death (world : MonsterWorld K) (id : GameObjectId) (killer : Option GameObjectId) :
    MonsterWorld K :=
  world.queueEvent (.expReward ⟨killer, calculateExpReward, id⟩)

/-- `Damaged` by an attacker. -/
def damaged (world : MonsterWorld K) (id : GameObjectId) (attacker : Option GameObjectId)
    (damage : Int) : MonsterWorld K :=
  let monsterHP := (world.monsters id).hp - monsterDamage damage
  let world := world.retarget id attacker
  let world := world.setMonster id { world.monsters id with hp := monsterHP }
  if monsterHP ≤ 0 then
    let world := world.setMonster id { world.monsters id with healthBarVisible := false }
    let world := world.death id attacker
    world.setMonster id { world.monsters id with isDead := true, type := .itemBox }
  else world

/-- The handler of a player: a reward is its own where it is the killer. -/
def handle (world : MonsterWorld K) : MonsterEvent → MonsterWorld K
  | .expReward reward =>
    { world with
      players := fun id =>
        if reward.killer = some id then (world.players id).grant reward.expAmount
        else world.players id }
  | _ => world

/-- The queue is worked off in order; what a request makes of a machine is a call. -/
def processEvents (world : MonsterWorld K) : MonsterWorld K :=
  world.eventQueue.foldl handle { world with eventQueue := [] }

end MonsterWorld

inductive MonsterCall (K : Type) where
  | damaged (id : GameObjectId) (attacker : Option GameObjectId) (damage : Int)
  | damagedInfo (id : GameObjectId) (damage : DamageInfo K)
  | processEvents
  /-- The machine of a monster changes its state or its target. -/
  | changeState (id : GameObjectId)
      (stateMachine : Option (MonsterStateType × Option GameObjectId))

def MonsterWorld.step (world : MonsterWorld K) : MonsterCall K → MonsterWorld K
  | .damaged id attacker damage => world.damaged id attacker damage
  | .damagedInfo id damage => world.setMonster id ((world.monsters id).damagedInfo damage)
  | .processEvents => world.processEvents
  | .changeState id stateMachine =>
    world.setMonster id { world.monsters id with stateMachine }

/-! ## Rewards and kills -/

def MonsterEvent.reward : MonsterEvent → Option ExpReward
  | .expReward reward => some reward
  | _ => none

/-- What some rewards are worth to a player. -/
def worth (id : GameObjectId) (rewards : List ExpReward) : Nat :=
  ((rewards.filter fun reward => reward.killer = some id).map ExpReward.expAmount).sum

@[simp]
theorem worth_nil (id : GameObjectId) : worth id [] = 0 :=
  rfl

@[simp]
theorem worth_append (id : GameObjectId) (first second : List ExpReward) :
    worth id (first ++ second) = worth id first + worth id second := by
  simp [worth]

namespace MonsterWorld

/-- The rewards that wait in the queue. -/
def pending (world : MonsterWorld K) : List ExpReward :=
  world.eventQueue.filterMap MonsterEvent.reward

/-- The rewards that a call puts behind those in the queue. -/
def queued (world : MonsterWorld K) (call : MonsterCall K) : List ExpReward :=
  ((world.step call).eventQueue.drop world.eventQueue.length).filterMap MonsterEvent.reward

/-- The call brings the hp of a monster to zero. -/
def Kills (world : MonsterWorld K) (call : MonsterCall K) (id : GameObjectId) : Prop :=
  0 < (world.monsters id).hp ∧ ((world.step call).monsters id).hp ≤ 0

instance (world : MonsterWorld K) (call : MonsterCall K) (id : GameObjectId) :
    Decidable (world.Kills call id) :=
  inferInstanceAs (Decidable (_ ∧ _))

/-- The reward that a call earns: one for a monster that it kills, for who dealt the blow. -/
def due (world : MonsterWorld K) (call : MonsterCall K) : List ExpReward :=
  match call with
  | .damaged id attacker _ =>
    if world.Kills call id then [⟨attacker, calculateExpReward, id⟩] else []
  | .damagedInfo id damage =>
    if world.Kills call id then [⟨damage.attacker, calculateExpReward, id⟩] else []
  | _ => []

/-- The blow of an attacker leaves no monster dead that was so before, and a skill with a
stun kills none. -/
def PaysOnce (world : MonsterWorld K) : MonsterCall K → Prop
  | .damaged id _ damage =>
    (world.monsters id).hp ≤ 0 → damage < (world.monsters id).hp
  | .damagedInfo id damage =>
    0 < (world.monsters id).hp → damage.damage < (world.monsters id).hp
  | _ => True

end MonsterWorld

@[simp]
theorem monsterDamage_eq (damage : Int) : monsterDamage damage = damage :=
  Int.mul_tdiv_cancel damage (by decide)

section Steps

variable {world : MonsterWorld K}

open MonsterWorld

omit [LinearOrder K] in
/-- A new target makes requests, and no rewards. -/
theorem retarget_spec (world : MonsterWorld K) (id : GameObjectId)
    (attacker : Option GameObjectId) :
    ∃ requests, (world.retarget id attacker).eventQueue = world.eventQueue ++ requests ∧
      requests.filterMap MonsterEvent.reward = [] ∧
      (world.retarget id attacker).players = world.players := by
  unfold retarget
  split
  next =>
    simp only [queueEvent, setMonster, update_self]
    split_ifs
    · exact ⟨[], by simp, rfl, rfl⟩
    · refine ⟨[.monsterStateChangeRequest id .trace, .animationStateChangeRequest id .trace],
        ?_, rfl, rfl⟩
      simp
    · exact ⟨[.monsterStateChangeRequest id .trace], rfl, rfl, rfl⟩
    · exact ⟨[], by simp, rfl, rfl⟩
  next => exact ⟨[], by simp, rfl, rfl⟩

omit [LinearOrder K] in
/-- A blow that leaves a monster without hp queues a reward at the end. -/
theorem damaged_spec (world : MonsterWorld K) (id : GameObjectId)
    (attacker : Option GameObjectId) (damage : Int) :
    ∃ requests, requests.filterMap MonsterEvent.reward =
        (if (world.monsters id).hp - damage ≤ 0 then [⟨attacker, calculateExpReward, id⟩]
          else []) ∧
      (world.damaged id attacker damage).eventQueue = world.eventQueue ++ requests ∧
      (world.damaged id attacker damage).players = world.players ∧
      ((world.damaged id attacker damage).monsters id).hp = (world.monsters id).hp - damage := by
  obtain ⟨requests, hqueue, hnone, hplayers⟩ := retarget_spec world id attacker
  unfold damaged
  simp only [monsterDamage_eq]
  by_cases hdead : (world.monsters id).hp - damage ≤ 0
  · refine ⟨requests ++ [.expReward ⟨attacker, calculateExpReward, id⟩], ?_, ?_, ?_, ?_⟩
    · simp [hdead, hnone, MonsterEvent.reward]
    · simp [hdead, setMonster, death, queueEvent, hqueue]
    · simp [hdead, setMonster, death, queueEvent, hplayers]
    · simp [hdead, setMonster, death, queueEvent]
  · refine ⟨requests, ?_, ?_, ?_, ?_⟩
    · simp [hdead, hnone]
    · simp [hdead, setMonster, hqueue]
    · simp [hdead, setMonster, hplayers]
    · simp [hdead, setMonster]

theorem queued_damaged (id : GameObjectId) (attacker : Option GameObjectId) (damage : Int) :
    world.queued (.damaged id attacker damage) =
      if (world.monsters id).hp - damage ≤ 0 then [⟨attacker, calculateExpReward, id⟩]
      else [] := by
  obtain ⟨requests, hrewards, hqueue, -, -⟩ := damaged_spec world id attacker damage
  simp only [queued, step, hqueue, List.drop_left, hrewards]

theorem due_damaged (id : GameObjectId) (attacker : Option GameObjectId) (damage : Int) :
    world.due (.damaged id attacker damage) =
      if 0 < (world.monsters id).hp ∧ (world.monsters id).hp - damage ≤ 0 then
        [⟨attacker, calculateExpReward, id⟩]
      else [] := by
  obtain ⟨-, -, -, -, hhp⟩ := damaged_spec world id attacker damage
  simp only [due, Kills, step, hhp]

omit [LinearOrder K] in
theorem handle_queue (world : MonsterWorld K) (event : MonsterEvent) :
    (world.handle event).eventQueue = world.eventQueue := by
  cases event <;> rfl

omit [LinearOrder K] in
theorem processEvents_queue (world : MonsterWorld K) : world.processEvents.eventQueue = [] := by
  have hkept : ∀ (events : List MonsterEvent) (world : MonsterWorld K),
      (events.foldl handle world).eventQueue = world.eventQueue := by
    intro events
    induction events with
    | nil => exact fun _ => rfl
    | cons event events ih =>
      intro world
      rw [List.foldl_cons, ih, handle_queue]
  exact hkept world.eventQueue _

/-- The two accounts of a call. -/
theorem queued_eq_due_iff (world : MonsterWorld K) (call : MonsterCall K) :
    world.queued call = world.due call ↔ world.PaysOnce call := by
  cases call with
  | damaged id attacker damage =>
    rw [queued_damaged, due_damaged]
    simp only [PaysOnce]
    by_cases hbefore : 0 < (world.monsters id).hp <;>
      by_cases hafter : (world.monsters id).hp - damage ≤ 0 <;>
      simp [hbefore, hafter] <;> omega
  | damagedInfo id damage =>
    simp only [queued, due, Kills, step, setMonster, List.drop_length, List.filterMap_nil,
      update_self, Monster.damagedInfo, monsterDamage_eq, PaysOnce]
    by_cases hbefore : 0 < (world.monsters id).hp <;>
      by_cases hafter : (world.monsters id).hp - damage.damage ≤ 0 <;>
      simp [hbefore, hafter] <;> omega
  | processEvents =>
    have hempty : (world.step .processEvents).eventQueue = [] := processEvents_queue world
    simp [queued, due, PaysOnce, hempty]
  | changeState id stateMachine => simp [queued, due, step, setMonster, PaysOnce]

/-! ## What is granted -/

theorem worth_cons (id : GameObjectId) (reward : ExpReward) (rewards : List ExpReward) :
    worth id (reward :: rewards) =
      (if reward.killer = some id then reward.expAmount else 0) + worth id rewards := by
  by_cases hown : reward.killer = some id <;> simp [worth, hown]

omit [LinearOrder K] in
/-- A player is granted what it killed for, and nothing else. -/
theorem handle_earned {start : LevelPlayer K} {id : GameObjectId} {granted : Nat}
    (hearned : LevelPlayer.HasEarned start (world.players id) granted) (event : MonsterEvent) :
    LevelPlayer.HasEarned start ((world.handle event).players id)
      (granted + worth id event.reward.toList : Nat) := by
  cases event with
  | expReward reward =>
    simp only [handle, MonsterEvent.reward, Option.toList_some, worth_cons, worth_nil]
    by_cases hown : reward.killer = some id
    · simpa [hown] using hearned.grant reward.expAmount
    · simpa [hown] using hearned
  | monsterStateChangeRequest target newState => simpa [handle, MonsterEvent.reward] using hearned
  | animationStateChangeRequest target newState =>
    simpa [handle, MonsterEvent.reward] using hearned

omit [LinearOrder K] in
theorem foldl_handle_earned {start : LevelPlayer K} {id : GameObjectId}
    (events : List MonsterEvent) (world : MonsterWorld K) {granted : Nat}
    (hearned : LevelPlayer.HasEarned start (world.players id) granted) :
    LevelPlayer.HasEarned start ((events.foldl handle world).players id)
      (granted + worth id (events.filterMap MonsterEvent.reward) : Nat) := by
  induction events generalizing world granted with
  | nil => simpa using hearned
  | cons event events ih =>
    have hfirst := ih (world.handle event) (handle_earned hearned event)
    cases hreward : event.reward with
    | none => simpa [hreward] using hfirst
    | some reward => simpa [hreward, worth_cons, add_assoc] using hfirst

/-- The call neither loses experience nor makes any beside what it queues. -/
theorem step_earned {start : LevelPlayer K} {id : GameObjectId} {granted : Nat}
    (hearned : LevelPlayer.HasEarned start (world.players id) granted) (call : MonsterCall K) :
    ∃ after : Nat, LevelPlayer.HasEarned start ((world.step call).players id) after ∧
      after + worth id (world.step call).pending =
        granted + worth id world.pending + worth id (world.queued call) := by
  cases call with
  | damaged target attacker damage =>
    obtain ⟨requests, -, hqueue, hplayers, -⟩ := damaged_spec world target attacker damage
    refine ⟨granted, ?_, ?_⟩
    · simpa only [step, hplayers] using hearned
    · simp [pending, queued, step, hqueue, add_assoc]
  | damagedInfo target damage =>
    refine ⟨granted, hearned, ?_⟩
    simp [pending, queued, step, setMonster]
  | processEvents =>
    have hqueue := processEvents_queue world
    refine ⟨granted + worth id world.pending, ?_, ?_⟩
    · exact foldl_handle_earned world.eventQueue { world with eventQueue := [] } hearned
    · simp [pending, queued, step, hqueue]
  | changeState target stateMachine =>
    refine ⟨granted, hearned, ?_⟩
    simp [pending, queued, step, setMonster]

theorem run_earned (start : MonsterWorld K) (calls : List (MonsterCall K))
    (id : GameObjectId) :
    ∃ granted : Nat,
      LevelPlayer.HasEarned (start.players id) ((Machine.run step start calls).players id)
        granted ∧
      granted + worth id (Machine.run step start calls).pending =
        worth id start.pending + worth id (Machine.yields step queued start calls) := by
  have hrun : ∀ (calls : List (MonsterCall K)) (world : MonsterWorld K) (granted : Nat),
      LevelPlayer.HasEarned (start.players id) (world.players id) granted →
      ∃ after : Nat,
        LevelPlayer.HasEarned (start.players id) ((Machine.run step world calls).players id)
          after ∧
        after + worth id (Machine.run step world calls).pending =
          granted + worth id world.pending + worth id (Machine.yields step queued world calls) := by
    intro calls
    induction calls with
    | nil =>
      intro world granted hearned
      exact ⟨granted, hearned, by simp [Machine.yields]⟩
    | cons call calls ih =>
      intro world granted hearned
      obtain ⟨after, hafter, hbalance⟩ := step_earned hearned call
      obtain ⟨final, hfinal, htotal⟩ := ih (world.step call) after hafter
      refine ⟨final, hfinal, ?_⟩
      rw [Machine.run_cons, Machine.yields, worth_append, htotal, hbalance]
      omega
  obtain ⟨granted, hgranted, hbalance⟩ := hrun calls start 0 (LevelPlayer.hasEarned_zero _)
  refine ⟨granted, hgranted, ?_⟩
  omega

end Steps

/-! ## The ledger -/

open MonsterWorld in
/-- Every kill has queued one reward for who dealt the blow, and nothing else has; what a
player was granted and what waits for it are the rewards for the monsters it killed. -/
structure RewardLedger (start : MonsterWorld K) (calls : List (MonsterCall K)) : Prop where
  once : Machine.yields step queued start calls = Machine.yields step due start calls
  granted : ∀ id, ∃ granted : Nat,
    LevelPlayer.HasEarned (start.players id) ((Machine.run step start calls).players id)
      granted ∧
    granted + worth id (Machine.run step start calls).pending =
      worth id start.pending + worth id (Machine.yields step due start calls)

namespace MonsterWorld

/-- The ledger is right at every time of a run exactly where each blow pays once. -/
theorem rewardLedger_iff (start : MonsterWorld K) (calls : List (MonsterCall K)) :
    (∀ early, early <+: calls → RewardLedger start early) ↔
      Machine.Meets step PaysOnce start calls := by
  have hmeets : Machine.Meets step PaysOnce start calls ↔
      Machine.Meets step (fun world call => world.queued call = world.due call) start calls :=
    Machine.meets_iff_of_invariant (I := fun _ => True)
      (fun world call _ => (queued_eq_due_iff world call).symm) (fun _ _ _ _ => trivial) trivial
  rw [hmeets, ← Machine.yields_agree_iff]
  constructor
  · intro hledger early hearly
    exact (hledger early hearly).once
  · intro hagree early hearly
    have honce := hagree early hearly
    refine ⟨honce, ?_⟩
    intro id
    rw [← honce]
    exact run_earned start early id

/-- Nicky alone with a monster. -/
def duel : MonsterWorld ℚ where
  monsters := fun _ => {}
  players := fun _ => LevelPlayer.nicky
  isActivePlayer := fun id => id = 0

/-- Two blows that land in one frame are both paid for, and a stun that kills is not. -/
theorem duel_pays_twice :
    Machine.yields step queued duel [.damaged 1 (some 0) 200, .damaged 1 (some 0) 32] =
        [⟨some 0, 500, 1⟩, ⟨some 0, 500, 1⟩] ∧
      Machine.yields step due duel [.damaged 1 (some 0) 200, .damaged 1 (some 0) 32] =
        [⟨some 0, 500, 1⟩] ∧
      Machine.yields step queued duel [.damagedInfo 1 ⟨200, 1, some 0⟩] = [] ∧
      Machine.yields step due duel [.damagedInfo 1 ⟨200, 1, some 0⟩] =
        [⟨some 0, 500, 1⟩] := by
  decide +kernel

end MonsterWorld

end SurvivalArena
