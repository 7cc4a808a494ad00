import SurvivalArena.Game.NavMeshPath

/-!
# Agents on the navigation mesh

An agent walks along the way-points of a path.  The length of a step, the test whether a
way-point is reached and the correction of the height do not know of each other.
-/

namespace SurvivalArena

inductive NavMeshAgentState where
  | idle
  | moving
  | arrived
deriving DecidableEq

/-- The agent and the position of its object; nothing here reads the way the object faces. -/
structure NavMeshAgent (K : Type) where
  position : Vec3 K
  path : List (Vec3 K)
  currentPathIndex : Nat
  destination : Vec3 K
  state : NavMeshAgentState
  speed : K
  stoppingDistance : K
deriving DecidableEq

inductive AgentEvent (K : Type) where
  | setDestination (destination : Vec3 K)
  | stop
  | setSpeed (speed : K)
  | setStoppingDistance (distance : K)
  | update (deltaTime : K)

namespace NavMeshAgent

section Agent

variable {K : Type} [Field K] [LinearOrder K] [FloorRing K] [SquareRoot K]

/-- The agent as it is made. -/
def create (position : Vec3 K) : NavMeshAgent K where
  position
  path := []
  currentPathIndex := 0
  destination := ⟨0, 0, 0⟩
  state := .idle
  speed := 5
  stoppingDistance := 1 / 10

/-- The agent with a path, and the triangle the mesh found last. -/
def setDestination (queue : GameNavMesh.PathQueue K) (mesh : GameNavMesh K)
    (lastFoundTriangle : Option Nat) (destination : Vec3 K) (agent : NavMeshAgent K) :
    NavMeshAgent K × Option Nat :=
  let targetPos := mesh.getNearestPointOnNavMesh destination
  let found := mesh.findPath queue lastFoundTriangle agent.position targetPos
  let path := found.1.getD []
  ({ agent with
      path
      destination := targetPos
      currentPathIndex := 0
      state := if path.isEmpty then agent.state else .moving },
    found.2)

def stop (agent : NavMeshAgent K) : NavMeshAgent K :=
  { agent with state := .idle, path := [], currentPathIndex := 0 }

/-- The way to a point in the plane of x and z. -/
def direction (agent : NavMeshAgent K) (targetPos : Vec3 K) : Vec3 K :=
  { targetPos - agent.position with y := 0 }

/-- The position after a step, before the height is corrected. -/
def newPos (agent : NavMeshAgent K) (deltaTime : K) (targetPos : Vec3 K) : Vec3 K :=
  agent.position +
    (((agent.direction targetPos).normalize.scale agent.speed).scale deltaTime).scale (5 / 2)

def moveTo (mesh : GameNavMesh K) (deltaTime : K) (agent : NavMeshAgent K)
    (targetPos : Vec3 K) : NavMeshAgent K :=
  if 1 / 100 < (agent.direction targetPos).length then
    { agent with
      position := mesh.getNearestPointOnNavMesh (agent.newPos deltaTime targetPos) }
  else agent

def updateMovement (mesh : GameNavMesh K) (deltaTime : K) (agent : NavMeshAgent K) :
    NavMeshAgent K :=
  match agent.path[agent.currentPathIndex]? with
  | none => { agent with state := .arrived }
  | some targetPos =>
    if agent.position.distance targetPos ≤ agent.stoppingDistance then
      let agent := { agent with currentPathIndex := agent.currentPathIndex + 1 }
      match agent.path[agent.currentPathIndex]? with
      | none => { agent with state := .arrived }
      | some targetPos => agent.moveTo mesh deltaTime targetPos
    else agent.moveTo mesh deltaTime targetPos

def update (mesh : GameNavMesh K) (deltaTime : K) (agent : NavMeshAgent K) : NavMeshAgent K :=
  if agent.state = .moving then agent.updateMovement mesh deltaTime else agent

/-- One event of an agent, with the triangle the mesh found last. -/
def step (queue : GameNavMesh.PathQueue K) (mesh : GameNavMesh K)
    (world : NavMeshAgent K × Option Nat) : AgentEvent K → NavMeshAgent K × Option Nat
  | .setDestination destination => world.1.setDestination queue mesh world.2 destination
  | .stop => (world.1.stop, world.2)
  | .setSpeed speed => ({ world.1 with speed }, world.2)
  | .setStoppingDistance stoppingDistance => ({ world.1 with stoppingDistance }, world.2)
  | .update deltaTime => (world.1.update mesh deltaTime, world.2)

/-! ## Progress -/

/-- The next way-point is taken, or the agent arrives, or it comes nearer to its way-point in
the plane without passing it. -/
def Progresses (agent next : NavMeshAgent K) : Prop :=
  next.currentPathIndex = agent.currentPathIndex + 1 ∨ next.state = .arrived ∨
    next.path = agent.path ∧ next.currentPathIndex = agent.currentPathIndex ∧
      ∃ targetPos ∈ agent.path[agent.currentPathIndex]?,
        (next.direction targetPos).length < (agent.direction targetPos).length ∧
          0 ≤ (next.direction targetPos).dot (agent.direction targetPos)

/-- No triangle of the cell of the point offers a nearer one. -/
structure NearestOffer (mesh : GameNavMesh K) (point offered : Vec3 K) : Prop where
  offers : ∃ triangle, mesh.InCell point triangle ∧ triangle.Offers point offered
  nearest : ∀ triangle other, mesh.InCell point triangle → triangle.Offers point other →
    point.distance offered ≤ point.distance other

/-- The length of a step in the plane. -/
def stride (agent : NavMeshAgent K) (deltaTime : K) : K :=
  agent.speed * deltaTime * (5 / 2)

/-- What a step leaves of the way suffices for the correction that sets the agent on a point
of the mesh; without a correction, the step is no longer than the way. -/
structure Short (agent : NavMeshAgent K) (deltaTime : K) (targetPos offered : Vec3 K) :
    Prop where
  front : 0 ≤ (agent.direction targetPos).length - agent.stride deltaTime -
    (offered - agent.newPos deltaTime targetPos).dot (agent.direction targetPos).normalize
  nearer : ((agent.direction targetPos).length - agent.stride deltaTime) ^ 2 -
    2 * ((agent.direction targetPos).length - agent.stride deltaTime) *
      (offered - agent.newPos deltaTime targetPos).dot (agent.direction targetPos).normalize +
    ((offered - agent.newPos deltaTime targetPos).x ^ 2 +
      (offered - agent.newPos deltaTime targetPos).z ^ 2) <
        (agent.direction targetPos).length ^ 2

/-- The mesh is within reach of the point. -/
def Reaches (mesh : GameNavMesh K) (point : Vec3 K) : Prop :=
  ∃ triangle offered, mesh.InCell point triangle ∧ triangle.Offers point offered ∧
    point.distance offered < FLT_MAX

/-- Under this condition a frame makes progress: the path ends, or a way-point is reached and
the step to the next one stays within reach of the mesh, or a step is far enough to be made
and short enough for each correction there may be. -/
inductive Steady (mesh : GameNavMesh K) (deltaTime : K) (agent : NavMeshAgent K) : Prop
  | ended (hend : agent.path[agent.currentPathIndex]? = none)
  | arriving (targetPos : Vec3 K)
      (htarget : agent.path[agent.currentPathIndex]? = some targetPos)
      (hreached : agent.position.distance targetPos ≤ agent.stoppingDistance)
      (hend : agent.path[agent.currentPathIndex + 1]? = none)
  | taking (targetPos next : Vec3 K)
      (htarget : agent.path[agent.currentPathIndex]? = some targetPos)
      (hreached : agent.position.distance targetPos ≤ agent.stoppingDistance)
      (hnext : agent.path[agent.currentPathIndex + 1]? = some next)
      (hreach : 1 / 100 < (agent.direction next).length →
        Reaches mesh (agent.newPos deltaTime next))
  | moving (targetPos : Vec3 K)
      (htarget : agent.path[agent.currentPathIndex]? = some targetPos)
      (hapart : agent.stoppingDistance < agent.position.distance targetPos)
      (hfar : 1 / 100 < (agent.direction targetPos).length)
      (hreach : Reaches mesh (agent.newPos deltaTime targetPos))
      (hshort : ∀ offered, NearestOffer mesh (agent.newPos deltaTime targetPos) offered →
        Short agent deltaTime targetPos offered)

/-- What a frame needs, in an event of an agent. -/
def SteadyAt (mesh : GameNavMesh K) (world : NavMeshAgent K × Option Nat) :
    AgentEvent K → Prop
  | .update deltaTime => world.1.state = .moving → Steady mesh deltaTime world.1
  | _ => True

/-- After the event the agent is on the mesh; and a frame in which it moves makes progress. -/
def ProgressesAt (queue : GameNavMesh.PathQueue K) (mesh : GameNavMesh K)
    (world : NavMeshAgent K × Option Nat) (event : AgentEvent K) : Prop :=
  mesh.OnMesh (step queue mesh world event).1.position ∧
    ∀ deltaTime, event = .update deltaTime → world.1.state = .moving →
      Progresses world.1 (step queue mesh world event).1

end Agent

/-! ## One step -/

section Step

variable {K : Type} [Field K] [LinearOrder K] [IsStrictOrderedRing K] [SquareRoot K]
  [ExactRoot K]

theorem length_mul_self (a : Vec3 K) : a.length * a.length = a.dot a :=
  ExactRoot.mul_self _ (Vec3.dot_self_nonneg _)

theorem length_lt_of_dot_lt {a b : Vec3 K} (h : a.dot a < b.dot b) : a.length < b.length := by
  refine lt_of_not_ge ?_
  intro hle
  have hnonneg : 0 ≤ b.length := ExactRoot.nonneg _
  have hsquare := mul_self_le_mul_self hnonneg hle
  rw [length_mul_self, length_mul_self] at hsquare
  exact absurd h (not_lt.mpr hsquare)

/-- A vector that is not zero is so many times its direction. -/
theorem normalize_scale {a : Vec3 K} (h : a.length ≠ 0) :
    a.normalize.scale a.length = a ∧ a.normalize.dot a.normalize = 1 := by
  have hsquare := length_mul_self a
  constructor
  · ext <;> simp [Vec3.normalize, h]
  · have hdot : a.normalize.dot a.normalize = a.dot a * (1 / a.length * (1 / a.length)) := by
      simp only [Vec3.normalize, Vec3.dot, Vec3.scale_x, Vec3.scale_y, Vec3.scale_z]
      ring
    rw [hdot, ← hsquare]
    field_simp

variable {agent next : NavMeshAgent K} {deltaTime : K} {targetPos : Vec3 K}

/-- A short step comes nearer and does not pass the way-point. -/
theorem Short.progress (hshort : Short agent deltaTime targetPos next.position)
    (hfar : 1 / 100 < (agent.direction targetPos).length) :
    (next.direction targetPos).length < (agent.direction targetPos).length ∧
      0 ≤ (next.direction targetPos).dot (agent.direction targetPos) := by
  have hpositive : 0 < (agent.direction targetPos).length := lt_trans (by norm_num) hfar
  obtain ⟨hway, hunit⟩ := normalize_scale hpositive.ne'
  have hlevel : (agent.direction targetPos).normalize.y = 0 := by
    simp [direction, Vec3.normalize]
  have hsquare := length_mul_self (agent.direction targetPos)
  obtain ⟨hfront, hnearer⟩ := hshort
  -- what is left of the way: the rest of the step, without the correction
  have hx : (next.direction targetPos).x = (agent.direction targetPos).normalize.x *
      ((agent.direction targetPos).length - agent.stride deltaTime) -
        (next.position - agent.newPos deltaTime targetPos).x := by
    have hwayX := congrArg Vec3.x hway
    simp only [Vec3.scale_x] at hwayX
    simp only [newPos, Vec3.sub_x, Vec3.add_x, Vec3.scale_x, stride]
    simp only [direction, Vec3.sub_x] at hwayX ⊢
    linear_combination -hwayX
  have hz : (next.direction targetPos).z = (agent.direction targetPos).normalize.z *
      ((agent.direction targetPos).length - agent.stride deltaTime) -
        (next.position - agent.newPos deltaTime targetPos).z := by
    have hwayZ := congrArg Vec3.z hway
    simp only [Vec3.scale_z] at hwayZ
    simp only [newPos, Vec3.sub_z, Vec3.add_z, Vec3.scale_z, stride]
    simp only [direction, Vec3.sub_z] at hwayZ ⊢
    linear_combination -hwayZ
  have hy : (next.direction targetPos).y = 0 := rfl
  generalize next.position - agent.newPos deltaTime targetPos = correction at *
  generalize (agent.direction targetPos).length - agent.stride deltaTime = rest at *
  generalize (agent.direction targetPos).normalize = unit at *
  have hunit' : unit.x * unit.x + unit.z * unit.z = 1 := by
    simpa [Vec3.dot, hlevel] using hunit
  have hdot : correction.dot unit = correction.x * unit.x + correction.z * unit.z := by
    simp [Vec3.dot, hlevel]
  constructor
  · refine length_lt_of_dot_lt ?_
    have hleft : (next.direction targetPos).dot (next.direction targetPos) =
        rest ^ 2 - 2 * rest * correction.dot unit + (correction.x ^ 2 + correction.z ^ 2) := by
      rw [hdot, Vec3.dot, hx, hy, hz]
      linear_combination rest ^ 2 * hunit'
    rw [hleft, ← hsquare]
    linarith
  · have hproduct : (next.direction targetPos).dot (agent.direction targetPos) =
        (agent.direction targetPos).length * (rest - correction.dot unit) := by
      have hwayX : unit.x * (agent.direction targetPos).length = (agent.direction targetPos).x :=
        congrArg Vec3.x hway
      have hwayZ : unit.z * (agent.direction targetPos).length = (agent.direction targetPos).z :=
        congrArg Vec3.z hway
      rw [hdot, Vec3.dot, hx, hy, hz, ← hwayX, ← hwayZ]
      linear_combination (agent.direction targetPos).length * rest * hunit'
    rw [hproduct]
    exact mul_nonneg hpositive.le hfront

end Step

section Run

variable {K : Type} [Field K] [LinearOrder K] [IsStrictOrderedRing K] [FloorRing K]
  [SquareRoot K] [ExactRoot K] (transform : Vec3 K → Vec3 K) (meshes : List (MeshGeometry K))
  {agent : NavMeshAgent K} {deltaTime : K}

omit [IsStrictOrderedRing K] [ExactRoot K] in
theorem moveTo_of_far (mesh : GameNavMesh K) (deltaTime : K) {targetPos : Vec3 K}
    (hfar : 1 / 100 < (agent.direction targetPos).length) :
    agent.moveTo mesh deltaTime targetPos = { agent with
      position := mesh.getNearestPointOnNavMesh (agent.newPos deltaTime targetPos) } :=
  if_pos hfar

/-- Within reach of the mesh the correction is the nearest offer. -/
theorem correction_spec {point : Vec3 K}
    (hreach : Reaches (GameNavMesh.start transform meshes) point) :
    NearestOffer (GameNavMesh.start transform meshes) point
        ((GameNavMesh.start transform meshes).getNearestPointOnNavMesh point) ∧
      (GameNavMesh.start transform meshes).OnMesh
        ((GameNavMesh.start transform meshes).getNearestPointOnNavMesh point) := by
  obtain ⟨⟨hoffers, hnearest⟩, honMesh, -⟩ :=
    GameNavMesh.nearestPoint_of_cell transform meshes hreach
  exact ⟨⟨hoffers, hnearest⟩, honMesh⟩

omit [IsStrictOrderedRing K] [ExactRoot K] in
theorem moveTo_currentPathIndex (mesh : GameNavMesh K) (agent : NavMeshAgent K)
    (targetPos : Vec3 K) :
    (agent.moveTo mesh deltaTime targetPos).currentPathIndex = agent.currentPathIndex := by
  unfold moveTo
  split <;> rfl

theorem moveTo_onMesh (agent : NavMeshAgent K) {targetPos : Vec3 K}
    (hon : (GameNavMesh.start transform meshes).OnMesh agent.position)
    (hreach : 1 / 100 < (agent.direction targetPos).length →
      Reaches (GameNavMesh.start transform meshes) (agent.newPos deltaTime targetPos)) :
    (GameNavMesh.start transform meshes).OnMesh
      (agent.moveTo (GameNavMesh.start transform meshes) deltaTime targetPos).position := by
  unfold moveTo
  split
  next hfar => exact (correction_spec transform meshes (hreach hfar)).2
  next => exact hon

/-- The step lemma of a frame. -/
theorem updateMovement_progresses
    (hon : (GameNavMesh.start transform meshes).OnMesh agent.position)
    (hsteady : Steady (GameNavMesh.start transform meshes) deltaTime agent) :
    Progresses agent (agent.updateMovement (GameNavMesh.start transform meshes) deltaTime) ∧
      (GameNavMesh.start transform meshes).OnMesh
        (agent.updateMovement (GameNavMesh.start transform meshes) deltaTime).position := by
  cases hsteady with
  | ended hend =>
    simp only [updateMovement, hend]
    exact ⟨.inr (.inl rfl), hon⟩
  | arriving targetPos htarget hreached hend =>
    simp only [updateMovement, htarget, if_pos hreached, hend]
    exact ⟨.inl rfl, hon⟩
  | taking targetPos next htarget hreached hnext hreach =>
    simp only [updateMovement, htarget, if_pos hreached, hnext]
    exact ⟨.inl (moveTo_currentPathIndex _ _ next), moveTo_onMesh transform meshes _ hon hreach⟩
  | moving targetPos htarget hapart hfar hreach hshort =>
    obtain ⟨hoffer, honMesh⟩ := correction_spec transform meshes hreach
    simp only [updateMovement, htarget, if_neg (not_le.mpr hapart)]
    have hmoved := moveTo_of_far (GameNavMesh.start transform meshes) deltaTime hfar
    have hposition : (agent.moveTo (GameNavMesh.start transform meshes) deltaTime
        targetPos).position = (GameNavMesh.start transform meshes).getNearestPointOnNavMesh
          (agent.newPos deltaTime targetPos) := congrArg NavMeshAgent.position hmoved
    rw [← hposition] at hoffer honMesh
    have hprogress := Short.progress (hshort _ hoffer) hfar
    refine ⟨.inr (.inr ⟨?_, ?_, targetPos, htarget, hprogress⟩), honMesh⟩
    · rw [hmoved]
    · rw [hmoved]

/-- On level ground, where a step ends on the mesh, it only must not be longer than the
way. -/
theorem Steady.of_onMesh {targetPos : Vec3 K}
    (htarget : agent.path[agent.currentPathIndex]? = some targetPos)
    (hapart : agent.stoppingDistance < agent.position.distance targetPos)
    (hfar : 1 / 100 < (agent.direction targetPos).length)
    (hon : (GameNavMesh.start transform meshes).OnMesh (agent.newPos deltaTime targetPos))
    (hpositive : 0 < agent.stride deltaTime)
    (hle : agent.stride deltaTime ≤ (agent.direction targetPos).length) :
    Steady (GameNavMesh.start transform meshes) deltaTime agent := by
  obtain ⟨triangle, htriangle, hsurface⟩ := hon
  have hcell : (GameNavMesh.start transform meshes).InCell (agent.newPos deltaTime targetPos)
      triangle := ⟨htriangle, SpatialGrid.getKey_mem_keys hsurface⟩
  have hoffers := (GameNavMesh.loadNavMeshData_triangle transform meshes htriangle).1.offers_self
    hsurface
  refine .moving targetPos htarget hapart hfar ⟨triangle, _, hcell, hoffers, ?_⟩ ?_
  · rw [Vec3.distance_self]
    norm_num [FLT_MAX]
  · intro offered hoffered
    have hnearest := hoffered.nearest triangle _ hcell hoffers
    rw [Vec3.distance_self] at hnearest
    obtain rfl := Vec3.eq_of_distance_le_zero hnearest
    constructor
    · simpa [Vec3.dot] using hle
    · simp only [Vec3.dot, Vec3.sub_x, Vec3.sub_y, Vec3.sub_z, sub_self, zero_mul, add_zero,
        mul_zero, sub_zero, ne_eq, OfNat.ofNat_ne_zero, not_false_eq_true, zero_pow]
      nlinarith

end Run

/-- An agent on its way over the wedge. -/
noncomputable def wedgeAgent : NavMeshAgent ℝ :=
  { create ⟨4, 0, 1⟩ with path := [⟨4, 0, 6⟩], state := .moving }

theorem wedgeAgent_direction : (wedgeAgent.direction ⟨4, 0, 6⟩).length = 5 ∧
    wedgeAgent.newPos (1 / 10) ⟨4, 0, 6⟩ = ⟨4, 0, 9 / 4⟩ := by
  have hlength : (wedgeAgent.direction ⟨4, 0, 6⟩).length = 5 := by
    have hroot := SquareRoot.root_square (5 : ℝ)
    norm_num [direction, wedgeAgent, create, Vec3.length, Vec3.dot] at hroot ⊢
    exact hroot
  refine ⟨hlength, ?_⟩
  rw [newPos, Vec3.normalize, hlength]
  ext <;> norm_num [direction, wedgeAgent, create]

theorem wedge_onMesh {u v : ℝ} (hu : 0 ≤ u) (hv : 0 ≤ v) (huv : u + v ≤ 1) :
    (GameNavMesh.start id (GameNavMesh.wedgeGeometry ℝ)).OnMesh ⟨4 * u + 8 * v, 0, 9 * u⟩ := by
  obtain ⟨triangle, htriangle, hvertices⟩ := GameNavMesh.wedge_triangle
  have hfirst : triangle.vertices 0 = ⟨0, 0, 0⟩ := congrFun hvertices 0
  have hsecond : triangle.vertices 1 = ⟨8, 0, 0⟩ := congrFun hvertices 1
  have hthird : triangle.vertices 2 = ⟨4, 0, 9⟩ := congrFun hvertices 2
  refine ⟨triangle, htriangle, u, v, hu, hv, huv, ?_⟩
  ext <;> simp [NavMeshTriangle.surfacePoint, hfirst, hsecond, hthird]

/-- One level triangle. -/
def fieldGeometry : List (MeshGeometry ℚ) :=
  [⟨[⟨0, 0, 0⟩, ⟨20, 0, 0⟩, ⟨0, 0, 20⟩], [0, 1, 2]⟩]

/-- A destination at a distance of 5/2, and frames in which the agent goes a way of 5. -/
def fieldRun (frames : Nat) : NavMeshAgent ℚ × Option Nat :=
  Machine.run (step GameNavMesh.leastCostQueue (GameNavMesh.start id fieldGeometry))
    (create ⟨2, 0, 2⟩, none)
    (.setDestination ⟨9 / 2, 0, 2⟩ :: List.replicate frames (.update (2 / 5)))

end NavMeshAgent

end SurvivalArena
