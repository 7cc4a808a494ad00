import SurvivalArena.Framework.Machine
import SurvivalArena.Framework.Scalar

/-!
# The event manager of the game

Subscribers by the type of an event, the queue of the events of a frame and the events
that are due later.  A null event is ignored wherever it is passed and has no counterpart
here, and a delegate without functions is as good as none.
-/

namespace SurvivalArena

inductive EventType where
  | playerSkillStart
  | playerSkillEnd
  | playerAttackStart
  | playerAttackEnd
  | playerDamaged
  | playerDeath
  | monsterDamaged
  | monsterDeath
  | monsterExpReward
  | monsterSpawn
  | monsterAggroStart
  | monsterAggroEnd
  | animationStart
  | animationEnd
  | animationTransition
  | stateEnter
  | stateExit
  | stateUpdate
  | animationStateChangeRequest
  | playerStateChangeRequest
  | monsterStateChangeRequest
  | animationStateChanged
  | playerStateChanged
  | monsterStateChanged
deriving DecidableEq

/-- An event with what its class adds to the type. -/
structure EventData (P : Type) where
  type : EventType
  payload : P

structure DelayedEvent (P R : Type) where
  eventData : EventData P
  triggerTime : R

/-- The subscribers stand for their functions.  The vector of the delayed events moves its
elements when it outgrows its capacity. -/
structure EventManager (S P R : Type) where
  eventDelegates : EventType → List S := fun _ => []
  eventQueue : List (EventData P) := []
  delayedEvents : List (DelayedEvent P R) := []
  delayedCapacity : Nat := 0

namespace EventManager

variable {S P R : Type}

def subscribe (manager : EventManager S P R) (eventType : EventType) (handler : S) :
    EventManager S P R :=
  { manager with
    eventDelegates := fun type =>
      if type = eventType then manager.eventDelegates type ++ [handler]
      else manager.eventDelegates type }

def unsubscribeAll (manager : EventManager S P R) (eventType : EventType) :
    EventManager S P R :=
  { manager with
    eventDelegates := fun type =>
      if type = eventType then [] else manager.eventDelegates type }

/-- The calls of handlers that an event triggers, in order. -/
def triggerEvent (manager : EventManager S P R) (eventData : EventData P) :
    List (S × EventData P) :=
  (manager.eventDelegates eventData.type).map fun handler => (handler, eventData)

def queueEvent (manager : EventManager S P R) (eventData : EventData P) :
    EventManager S P R :=
  { manager with eventQueue := manager.eventQueue ++ [eventData] }

end EventManager

/-! ## The update

The loops of an update turn by turn, with the calls that handlers make in each turn, and
the clock of the game.  Beside the manager the state keeps what was queued, scheduled and
handed to the subscribers so far.
-/

/-! ## The clock -/

/-- Numbers that the counts of the processor's clock convert to. -/
class ClockScalar (R : Type) extends Precision R where
  ofUInt64 : UInt64 → R

instance : ClockScalar Float32 where
  ofUInt64 := UInt64.toFloat32

structure TimeManager (R : Type) [Scalar R] where
  frequency : UInt64 := 0
  prevCount : UInt64 := 0
  deltaTime : R := 0
  gameTime : R := 0
  frameCount : UInt32 := 0
  frameTime : R := 0
  fps : UInt32 := 0

namespace TimeManager

variable {R : Type} [ClockScalar R]

def maxDeltaTime : R := 0.01

def update (time : TimeManager R) (currentCount : UInt64) : TimeManager R :=
  let deltaTime := Scalar.min
    (ClockScalar.ofUInt64 (currentCount - time.prevCount) /
      ClockScalar.ofUInt64 time.frequency) maxDeltaTime
  let frameCount := time.frameCount + 1
  let frameTime := time.frameTime + deltaTime
  let time := { time with
    deltaTime
    prevCount := currentCount
    frameCount
    frameTime
    gameTime := time.gameTime + deltaTime }
  if 1.0 < frameTime then
    { time with
      fps := UInt32.ofInt ((Scalar.floor (Precision.ofUInt32 frameCount / frameTime)).getD 0)
      frameTime := 0
      frameCount := 0 }
  else time

def resetDeltaTime (time : TimeManager R) (currentCount : UInt64) : TimeManager R :=
  { time with prevCount := currentCount }

end TimeManager

/-! ## The loops -/

variable {S P R : Type}

inductive EventCall (P R : Type) where
  | queueEvent (eventData : EventData P)
  | scheduleEvent (eventData : EventData P) (delay : R)

/-- Where an update stands: at an element of the vector of the delayed events, in the
queue, or with an iterator that a reallocation has invalidated. -/
inductive UpdatePhase where
  | idle
  | examining (index : Nat)
  | draining
  | dangling
deriving DecidableEq

/-- A scheduled event with the game time at which its delay has elapsed and the number of
the first update that looks at it. -/
structure ScheduledEvent (P R : Type) where
  eventData : EventData P
  due : R
  since : Nat

/-- An event that an update handed to the subscribers, with the number of the scheduled
event if it was not queued. -/
structure HandedEvent (P : Type) where
  origin : Option Nat
  eventData : EventData P
  update : Nat

structure EventLoop (S P R : Type) [Scalar R] where
  manager : EventManager S P R := {}
  time : TimeManager R := {}
  phase : UpdatePhase := .idle
  queued : List (EventData P) := []
  scheduled : List (ScheduledEvent P R) := []
  /-- The game times of the updates. -/
  updates : List R := []
  /-- The numbers of the scheduled events in the vector. -/
  pending : List Nat := []
  handed : List (HandedEvent P) := []
  /-- The calls of the subscribers' functions. -/
  deliveries : List (S × EventData P) := []
  /-- How many events had been queued when the last update returned. -/
  settled : Nat := 0

inductive LoopInput (P R : Type) where
  | frame (count : UInt64)
  | resetDeltaTime (count : UInt64)
  | call (call : EventCall P R)
  | update
  /-- One turn of a loop with what the handlers call in it. -/
  | next (calls : List (EventCall P R))

namespace EventLoop

variable [ClockScalar R]

/-- The updates that a scheduled event still has before it begin with this number. -/
def horizon (loop : EventLoop S P R) : Nat :=
  match loop.phase with
  | .examining _ => loop.updates.length - 1
  | _ => loop.updates.length

def isExamining (loop : EventLoop S P R) : Bool :=
  match loop.phase with
  | .examining _ => true
  | _ => false

/-- Without a subscriber nobody makes any calls. -/
def handlerCalls (loop : EventLoop S P R) (eventData : EventData P)
    (calls : List (EventCall P R)) : List (EventCall P R) :=
  if (loop.manager.triggerEvent eventData).isEmpty then [] else calls

section Calls

-- The capacity of a vector that has outgrown one.
variable (grow : Nat → Nat)

def scheduleEvent (loop : EventLoop S P R) (eventData : EventData P) (delay : R) :
    EventLoop S P R :=
  let full := loop.manager.delayedEvents.length == loop.manager.delayedCapacity
  { loop with
    manager := { loop.manager with
      delayedEvents := loop.manager.delayedEvents ++
        [{ eventData, triggerTime := loop.time.deltaTime + delay }]
      delayedCapacity := if full then grow loop.manager.delayedCapacity
        else loop.manager.delayedCapacity }
    phase := if full && loop.isExamining then .dangling else loop.phase
    scheduled := loop.scheduled ++
      [{ eventData, due := loop.time.gameTime + delay, since := loop.horizon }]
    pending := loop.pending ++ [loop.scheduled.length] }

def makeCall (loop : EventLoop S P R) : EventCall P R → EventLoop S P R
  | .queueEvent eventData =>
    { loop with
      manager := loop.manager.queueEvent eventData
      queued := loop.queued ++ [eventData] }
  | .scheduleEvent eventData delay => loop.scheduleEvent grow eventData delay

/-- An event is triggered. -/
def trigger (loop : EventLoop S P R) (origin : Option Nat) (eventData : EventData P) :
    EventLoop S P R :=
  { loop with
    handed := loop.handed ++ [⟨origin, eventData, loop.updates.length - 1⟩]
    deliveries := loop.deliveries ++ loop.manager.triggerEvent eventData }

/-- An event is triggered and its handlers make their calls. -/
def hand (loop : EventLoop S P R) (origin : Option Nat) (eventData : EventData P)
    (calls : List (EventCall P R)) : EventLoop S P R :=
  (loop.handlerCalls eventData calls).foldl (makeCall grow) (loop.trigger origin eventData)

def eraseDelayed (loop : EventLoop S P R) (index : Nat) : EventLoop S P R :=
  { loop with
    manager := { loop.manager with
      delayedEvents := loop.manager.delayedEvents.eraseIdx index }
    pending := loop.pending.eraseIdx index }

/-- The first loop at an element of the vector. -/
def examine (loop : EventLoop S P R) (index : Nat) (calls : List (EventCall P R)) :
    EventLoop S P R :=
  match loop.manager.delayedEvents[index]? with
  | none => { loop with phase := .draining }
  | some delayed =>
    if delayed.triggerTime ≤ loop.time.deltaTime then
      (loop.hand grow loop.pending[index]? delayed.eventData calls).eraseDelayed index
    else { loop with phase := .examining (index + 1) }

/-- The second loop. -/
def processEvent (loop : EventLoop S P R) (calls : List (EventCall P R)) :
    EventLoop S P R :=
  match loop.manager.eventQueue with
  | [] => { loop with phase := .idle, settled := loop.queued.length }
  | eventData :: eventQueue =>
    { loop with manager := { loop.manager with eventQueue } }.hand grow none eventData calls

def step (loop : EventLoop S P R) (input : LoopInput P R) : EventLoop S P R :=
  match input, loop.phase with
  | .frame count, .idle => { loop with time := loop.time.update count }
  | .resetDeltaTime count, .idle => { loop with time := loop.time.resetDeltaTime count }
  | .call call, .idle => loop.makeCall grow call
  | .update, .idle =>
    { loop with phase := .examining 0, updates := loop.updates ++ [loop.time.gameTime] }
  | .next calls, .examining index => loop.examine grow index calls
  | .next calls, .draining => loop.processEvent grow calls
  | _, _ => loop

end Calls

end EventLoop

end SurvivalArena
