import SurvivalArena.Game.EventManager

/-!
# The state machines and their subscriptions

Monsters, players and animations have state machines, which all subscribe to the one
event manager in their constructors and unsubscribe when they are destroyed.  What a
machine does in answer to an event or in its update is a call of its own, so that a run
may make any of them at any time.
-/

namespace SurvivalArena

open Machine

abbrev MachineId := Nat
abbrev GameObjectId := Nat

inductive MonsterStateType where
  | wait
  | appear
  | run
  | death
  | dying
  | attack
  | trace
deriving DecidableEq

inductive PlayerStateType where
  | wait
  | run
  | skill1
  | skill2
  | skill3
  | skill4
  | craft
  | die
  | baseAttack
  | counter
deriving DecidableEq

inductive AnimationStateType where
  | wait
  | run
  | baseAttack
  | skill1
  | skill2
  | skill3
  | skill4
  | charging
  | releasing
  | cooldown
  | death
  | dying
  | appear
  | craft
  | trace
  | counter
deriving DecidableEq

/-- A state of a machine of one of the kinds. -/
inductive MachineState where
  | monster (state : MonsterStateType)
  | player (state : PlayerStateType)
  | animation (state : AnimationStateType)
deriving DecidableEq

inductive MachineKind where
  | monster
  | player
  | animation
deriving DecidableEq

namespace MachineKind

def requestType : MachineKind → EventType
  | monster => .monsterStateChangeRequest
  | player => .playerStateChangeRequest
  | animation => .animationStateChangeRequest

/-- The type of the event that a machine triggers when it has changed its state. -/
def changedType : MachineKind → EventType
  | monster => .monsterStateChanged
  | player => .playerStateChanged
  | animation => .animationStateChanged

/-- The types a machine subscribes to in its constructor and unsubscribes in `OnDestroy`
and in its destructor. -/
def subscriptions : MachineKind → List EventType
  | monster => [.monsterStateChangeRequest, .animationStateChanged]
  | player => [.playerStateChangeRequest, .animationStateChanged]
  | animation => [.animationStateChangeRequest]

end MachineKind

/-- What the classes of the machines' events hold. -/
inductive StateEventContent where
  | changeRequest (target : GameObjectId) (newState : MachineState)
  | changed (owner : GameObjectId) (fromState toState : MachineState)
deriving DecidableEq

/-- The machine that made the event is kept apart; the source names its object only. -/
structure StateEvent where
  issuer : MachineId
  content : StateEventContent
deriving DecidableEq

deriving instance DecidableEq for EventData

structure StateMachine where
  kind : MachineKind
  gameObject : GameObjectId
  stateChangeQueue : List MachineState := []

namespace StateMachine

/-- A request for the object of the machine is queued in it. -/
def handleStateChangeRequest (machine : StateMachine) (eventData : EventData StateEvent) :
    StateMachine :=
  match eventData.payload.content with
  | .changeRequest target newState =>
    if target = machine.gameObject then
      { machine with stateChangeQueue := machine.stateChangeQueue ++ [newState] }
    else machine
  | .changed _ _ _ => machine

/-- The function a machine subscribed for the type of an event. -/
def handle (machine : StateMachine) (eventData : EventData StateEvent) : StateMachine :=
  if eventData.type = machine.kind.requestType then
    machine.handleStateChangeRequest eventData
  else machine

/-- The queued changes are carried out one after another. -/
def takeStateChanges (machine : StateMachine) : StateMachine :=
  { machine with stateChangeQueue := [] }

theorem takeStateChanges_keeps (machine : StateMachine) :
    machine.takeStateChanges.kind = machine.kind ∧
      machine.takeStateChanges.gameObject = machine.gameObject :=
  ⟨rfl, rfl⟩

theorem handle_kind (machine : StateMachine) (eventData : EventData StateEvent) :
    (machine.handle eventData).kind = machine.kind := by
  unfold handle handleStateChangeRequest
  split
  · split
    · split <;> rfl
    · rfl
  · rfl

theorem handle_gameObject (machine : StateMachine) (eventData : EventData StateEvent) :
    (machine.handle eventData).gameObject = machine.gameObject := by
  unfold handle handleStateChangeRequest
  split
  · split
    · split <;> rfl
    · rfl
  · rfl

end StateMachine

/-- The event manager, the machines that exist and the calls of their functions so far. -/
structure MachineWorld (R : Type) where
  manager : EventManager MachineId StateEvent R := {}
  machines : MachineId → Option StateMachine := fun _ => none
  deliveries : List (MachineId × EventData StateEvent) := []

inductive MachineCall where
  | construct (machine : MachineId) (kind : MachineKind) (gameObject : GameObjectId)
  | requestStateChange (machine : MachineId) (newState : MachineState)
  | triggerStateChanged (machine : MachineId) (fromState toState : MachineState)
  | update (machine : MachineId)
  | processEvents
  | onDestroy (machine : MachineId)
  | destructor (machine : MachineId)
deriving DecidableEq

namespace MachineWorld

variable {R : Type}

def modify (world : MachineWorld R) (machine : MachineId)
    (change : StateMachine → StateMachine) : MachineWorld R :=
  { world with
    machines := fun other =>
      if other = machine then (world.machines other).map change
      else world.machines other }

/-- One function of a subscriber is called. -/
def deliver (world : MachineWorld R) (delivery : MachineId × EventData StateEvent) :
    MachineWorld R :=
  { world.modify delivery.1 fun machine => machine.handle delivery.2 with
    deliveries := world.deliveries ++ [delivery] }

def triggerEvent (world : MachineWorld R) (eventData : EventData StateEvent) :
    MachineWorld R :=
  (world.manager.triggerEvent eventData).foldl deliver world

/-- The functions queue nothing themselves, so the queue is empty afterwards. -/
def processEvents (world : MachineWorld R) : MachineWorld R :=
  world.manager.eventQueue.foldl triggerEvent
    { world with manager := { world.manager with eventQueue := [] } }

def construct (world : MachineWorld R) (machine : MachineId) (kind : MachineKind)
    (gameObject : GameObjectId) : MachineWorld R :=
  { world with
    manager := kind.subscriptions.foldl (fun manager type => manager.subscribe type machine)
      world.manager
    machines := fun other =>
      if other = machine then some { kind, gameObject } else world.machines other }

/-- `OnDestroy` and the destructor unsubscribe everyone from the types of the machine. -/
def unsubscribe (world : MachineWorld R) (kind : MachineKind) : MachineWorld R :=
  { world with
    manager := kind.subscriptions.foldl EventManager.unsubscribeAll world.manager }

def remove (world : MachineWorld R) (machine : MachineId) : MachineWorld R :=
  { world with
    machines := fun other => if other = machine then none else world.machines other }

def requestStateChange (world : MachineWorld R) (machine : MachineId)
    (state : StateMachine) (newState : MachineState) : MachineWorld R :=
  { world with
    manager := world.manager.queueEvent {
      type := state.kind.requestType
      payload := {
        issuer := machine
        content := .changeRequest state.gameObject newState } } }

/-- A call of a machine that does not exist, or a constructor of one that does, cannot be
made. -/
def call (world : MachineWorld R) (call : MachineCall) : MachineWorld R :=
  match call with
  | .construct machine kind gameObject =>
    if (world.machines machine).isSome then world
    else world.construct machine kind gameObject
  | .requestStateChange machine newState =>
    (world.machines machine).elim world fun state =>
      world.requestStateChange machine state newState
  | .triggerStateChanged machine fromState toState =>
    (world.machines machine).elim world fun state => world.triggerEvent {
      type := state.kind.changedType
      payload := {
        issuer := machine
        content := .changed state.gameObject fromState toState } }
  | .update machine => world.modify machine StateMachine.takeStateChanges
  | .processEvents => world.processEvents
  | .onDestroy machine =>
    (world.machines machine).elim world fun state => world.unsubscribe state.kind
  | .destructor machine =>
    (world.machines machine).elim world fun state =>
      (world.unsubscribe state.kind).remove machine

/-! ## What the calls do -/

@[simp]
theorem deliver_manager (world : MachineWorld R)
    (delivery : MachineId × EventData StateEvent) :
    (world.deliver delivery).manager = world.manager :=
  rfl

theorem foldl_deliver_manager (deliveries : List (MachineId × EventData StateEvent))
    (world : MachineWorld R) : (deliveries.foldl deliver world).manager = world.manager := by
  induction deliveries generalizing world with
  | nil => rfl
  | cons delivery deliveries ih => rw [List.foldl_cons, ih, deliver_manager]

theorem foldl_deliver_deliveries (deliveries : List (MachineId × EventData StateEvent))
    (world : MachineWorld R) :
    (deliveries.foldl deliver world).deliveries = world.deliveries ++ deliveries := by
  induction deliveries generalizing world with
  | nil => exact (List.append_nil _).symm
  | cons delivery deliveries ih =>
    rw [List.foldl_cons, ih]
    exact List.append_assoc _ [delivery] _

@[simp]
theorem triggerEvent_manager (world : MachineWorld R) (eventData : EventData StateEvent) :
    (world.triggerEvent eventData).manager = world.manager :=
  foldl_deliver_manager _ world

theorem triggerEvent_deliveries (world : MachineWorld R)
    (eventData : EventData StateEvent) :
    (world.triggerEvent eventData).deliveries =
      world.deliveries ++ world.manager.triggerEvent eventData :=
  foldl_deliver_deliveries _ world

theorem foldl_triggerEvent_manager (events : List (EventData StateEvent))
    (world : MachineWorld R) :
    (events.foldl triggerEvent world).manager = world.manager := by
  induction events generalizing world with
  | nil => rfl
  | cons eventData events ih => rw [List.foldl_cons, ih, triggerEvent_manager]

theorem foldl_triggerEvent_deliveries (events : List (EventData StateEvent))
    (world : MachineWorld R) :
    (events.foldl triggerEvent world).deliveries =
      world.deliveries ++ events.flatMap world.manager.triggerEvent := by
  induction events generalizing world with
  | nil => exact (List.append_nil _).symm
  | cons eventData events ih =>
    rw [List.foldl_cons, ih, triggerEvent_manager, triggerEvent_deliveries,
      List.flatMap_cons, List.append_assoc]

theorem processEvents_manager (world : MachineWorld R) :
    world.processEvents.manager = { world.manager with eventQueue := [] } :=
  foldl_triggerEvent_manager _ _

theorem processEvents_deliveries (world : MachineWorld R) :
    world.processEvents.deliveries = world.deliveries ++
      world.manager.eventQueue.flatMap world.manager.triggerEvent :=
  foldl_triggerEvent_deliveries _ _

/-! ### Who exists -/

/-- The kind and the object of a machine, which no event changes. -/
def identity (world : MachineWorld R) (machine : MachineId) :
    Option (MachineKind × GameObjectId) :=
  (world.machines machine).map fun state => (state.kind, state.gameObject)

theorem modify_identity {change : StateMachine → StateMachine}
    (hchange : ∀ state, (change state).kind = state.kind ∧
      (change state).gameObject = state.gameObject)
    (world : MachineWorld R) (machine other : MachineId) :
    (world.modify machine change).identity other = world.identity other := by
  unfold identity modify
  dsimp only
  split
  · rw [Option.map_map]
    refine congrArg (fun reading => Option.map reading _) (funext fun state => ?_)
    rw [Function.comp_apply, (hchange state).1, (hchange state).2]
  · rfl

theorem foldl_deliver_identity (deliveries : List (MachineId × EventData StateEvent))
    (world : MachineWorld R) (machine : MachineId) :
    (deliveries.foldl deliver world).identity machine = world.identity machine := by
  induction deliveries generalizing world with
  | nil => rfl
  | cons delivery deliveries ih =>
    rw [List.foldl_cons, ih]
    exact modify_identity (fun state => ⟨state.handle_kind _, state.handle_gameObject _⟩)
      world delivery.1 machine

theorem foldl_triggerEvent_identity (events : List (EventData StateEvent))
    (world : MachineWorld R) (machine : MachineId) :
    (events.foldl triggerEvent world).identity machine = world.identity machine := by
  induction events generalizing world with
  | nil => rfl
  | cons eventData events ih =>
    rw [List.foldl_cons, ih]
    exact foldl_deliver_identity _ world machine

theorem processEvents_identity (world : MachineWorld R) (machine : MachineId) :
    world.processEvents.identity machine = world.identity machine :=
  foldl_triggerEvent_identity _ _ machine

end MachineWorld

end SurvivalArena
