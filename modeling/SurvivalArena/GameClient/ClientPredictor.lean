import SurvivalArena.Protocol.LobbyTypes
import SurvivalArena.Simulation.MatchTypes
import SurvivalArena.Simulation.NavAgent

/-!
# Client prediction

The client walks its own agent ahead of the server and keeps the inputs the server
has not acknowledged, to replay them from every position the server reports.
-/

namespace SurvivalArena

def maxClientInputHistory : Nat := 256

structure PredictedInput (R : Type) where
  sequence : UInt32
  moveDestination : Option (Vec2 R) := none
  attackTarget : Option ActorId := none

structure ClientPredictor (R : Type) where
  navMesh : NavMesh R
  speed : R
  stoppingDistance : R
  agent : NavAgent R
  desiredDestination : Option (Vec2 R) := none
  history : List (PredictedInput R) := []
  lastIssuedSequence : UInt32 := 0
  lastAcknowledgedSequence : UInt32 := 0

variable {R : Type} [Precision R]

namespace ClientPredictor

def create (navMesh : NavMesh R) (position : Vec2 R) (speed stoppingDistance : R) :
    Except Exception (ClientPredictor R) := do
  let agent ← NavAgent.create navMesh position speed stoppingDistance
  pure { navMesh, speed, stoppingDistance, agent }

def position (predictor : ClientPredictor R) : Vec2 R :=
  predictor.agent.position

def tickSeconds : R :=
  1.0 / Precision.ofUInt32 gameTickRate.toUInt32

/-- Give the agent the input's destination, if it has one. -/
def direct (mesh : NavMesh R) (agent : NavAgent R) (input : PredictedInput R) :
    NavAgent R × Except Exception Unit :=
  match input.moveDestination with
  | none => (agent, .ok ())
  | some destination =>
    let directed := agent.setDestination mesh destination
    attempt directed.1 directed.2 fun accepted =>
      (directed.1, if accepted then .ok ()
        else .error (.runtimeError "stored prediction destination became invalid"))

def apply (mesh : NavMesh R) (agent : NavAgent R) (input : PredictedInput R) :
    NavAgent R × Except Exception Unit :=
  let directed := direct mesh agent input
  attempt directed.1 directed.2 fun _ => directed.1.tick tickSeconds

def setDestination (predictor : ClientPredictor R) (destination : Vec2 R) :
    ClientPredictor R × Except Exception Bool :=
  if !destination.isFinite then (predictor, .ok false)
  else
    attempt predictor (predictor.navMesh.findPath predictor.position destination) fun path =>
      if path.isNone then (predictor, .ok false)
      else
        let directed := predictor.agent.setDestination predictor.navMesh destination
        let predictor := { predictor with agent := directed.1 }
        attempt predictor directed.2 fun accepted =>
          if accepted then
            ({ predictor with desiredDestination := some destination }, .ok true)
          else (predictor, .ok false)

def nextInput (predictor : ClientPredictor R) : PredictedInput R where
  sequence := predictor.lastIssuedSequence + 1
  moveDestination := predictor.desiredDestination

/-- The next input is issued, and the agent has been moved by it. -/
def issue (predictor : ClientPredictor R) (agent : NavAgent R) : ClientPredictor R :=
  { predictor with
    agent
    lastIssuedSequence := predictor.lastIssuedSequence + 1
    history := predictor.history ++ [predictor.nextInput] }

def advanceTick (predictor : ClientPredictor R) :
    ClientPredictor R × Except Exception (PredictedInput R) :=
  if maxClientInputHistory ≤ predictor.history.length then
    (predictor, .error (.runtimeError "prediction input history capacity exceeded"))
  else if predictor.lastIssuedSequence = 2 ^ 32 - 1 then
    (predictor, .error (.runtimeError "prediction input sequence exhausted"))
  else
    let applied := apply predictor.navMesh predictor.agent predictor.nextInput
    attempt (predictor.issue applied.1) applied.2 fun _ =>
      (predictor.issue applied.1, .ok predictor.nextInput)

/-- Apply the inputs in turn. -/
def replay (mesh : NavMesh R) (agent : NavAgent R) :
    List (PredictedInput R) → NavAgent R × Except Exception Unit
  | [] => (agent, .ok ())
  | input :: inputs =>
    let applied := apply mesh agent input
    attempt applied.1 applied.2 fun _ => replay mesh applied.1 inputs

def reconcile (predictor : ClientPredictor R) (authoritativePosition : Vec2 R)
    (acknowledgedSequence : UInt32) : ClientPredictor R × Except Exception Unit :=
  if predictor.lastIssuedSequence < acknowledgedSequence then
    (predictor, .error (.runtimeError
      "snapshot ACK exceeds issued prediction sequence"))
  else if acknowledgedSequence < predictor.lastAcknowledgedSequence then
    (predictor, .ok ())
  else
    attempt predictor (NavAgent.create predictor.navMesh authoritativePosition
        predictor.speed predictor.stoppingDistance) fun reconciled =>
      let history := predictor.history.filter fun input =>
        acknowledgedSequence < input.sequence
      let replayed := replay predictor.navMesh reconciled history
      ({ predictor with
         agent := replayed.1
         history
         lastAcknowledgedSequence := acknowledgedSequence }, replayed.2)

end ClientPredictor

end SurvivalArena
