import SurvivalArena.Simulation.NavMesh

/-!
# Navigation agent

An agent walks along the waypoints of a path on its mesh.
-/

namespace SurvivalArena

inductive NavAgentState where
  | idle
  | moving
  | arrived
  | invalidDestination
deriving DecidableEq

structure NavAgent (R : Type) where
  position : Vec2 R
  speed : R
  stoppingDistance : R
  state : NavAgentState := .idle
  waypoints : List (Vec2 R) := []
  nextWaypoint : Nat := 0
deriving DecidableEq

variable {R : Type} [Precision R]

namespace NavAgent

def create (mesh : NavMesh R) (position : Vec2 R) (speed stoppingDistance : R) :
    Except Exception (NavAgent R) := do
  throwIf (!position.isFinite || !Scalar.isFinite speed || decide (speed ≤ 0) ||
      !Scalar.isFinite stoppingDistance || decide (stoppingDistance < 0))
    (.invalidArgument "NavAgent requires finite movement values")
  let triangle ← mesh.findContainingTriangleGrid position
  throwIf triangle.isNone
    (.invalidArgument "NavAgent position must be on the NavMesh")
  pure { position, speed, stoppingDistance }

/-- Forget the path. -/
def halt (agent : NavAgent R) (state : NavAgentState) : NavAgent R :=
  { agent with waypoints := [], nextWaypoint := 0, state }

def setDestination (mesh : NavMesh R) (agent : NavAgent R) (destination : Vec2 R) :
    NavAgent R × Except Exception Bool :=
  if !destination.isFinite then (agent.halt .invalidDestination, .ok false)
  else
    attempt agent (mesh.findPath agent.position destination) fun path =>
      match path with
      | none => (agent.halt .invalidDestination, .ok false)
      | some path =>
        attempt agent (agent.position.distance destination) fun distance =>
          if distance ≤ agent.stoppingDistance then
            ({ agent.halt .arrived with position := destination }, .ok true)
          else
            ({ agent with
               waypoints := path.waypoints, nextWaypoint := 1, state := .moving },
             .ok true)

/-- Walk to the waypoints in turn, as far as the movement reaches. -/
def walk (agent : NavAgent R) : List (Vec2 R) → R → NavAgent R × Except Exception Unit
  | [], _ => (agent, .ok ())
  | target :: targets, movementRemaining =>
    if 0 < movementRemaining then
      let toTarget := target - agent.position
      attempt agent toTarget.length fun distance =>
        if Scalar.equal distance 0 then
          { agent with nextWaypoint := agent.nextWaypoint + 1 }.walk targets
            movementRemaining
        else if movementRemaining < distance then
          ({ agent with
             position := agent.position + toTarget * (movementRemaining / distance) },
           .ok ())
        else
          { agent with
            position := target, nextWaypoint := agent.nextWaypoint + 1 }.walk targets
              (movementRemaining - distance)
    else (agent, .ok ())

def tick (agent : NavAgent R) (deltaSeconds : R) : NavAgent R × Except Exception Unit :=
  if !Scalar.isFinite deltaSeconds || decide (deltaSeconds < 0) then
    (agent, .error (.invalidArgument "NavAgent delta must be finite and non-negative"))
  else if Scalar.equal deltaSeconds 0 || agent.state ≠ .moving then (agent, .ok ())
  else
    let walked := agent.walk (agent.waypoints.drop agent.nextWaypoint)
      (agent.speed * deltaSeconds)
    attempt walked.1 walked.2 fun _ =>
      if walked.1.nextWaypoint = walked.1.waypoints.length then
        ({ walked.1 with state := .arrived }, .ok ())
      else (walked.1, .ok ())

end NavAgent

end SurvivalArena
