import SurvivalArena.Framework.Extended
import SurvivalArena.Simulation.NavAgent

/-!
# Movement over exact numbers

Over exact numbers no distance between finite points overflows, so an agent that has
found a path walks it without an exception.
-/

namespace SurvivalArena

variable {K : Type} [Field K] [LinearOrder K] [FloorRing K] [SquareRoot K]

namespace Vec2

theorem isFinite_iff {point : Vec2 (Extended K)} :
    point.isFinite = true ↔ ∃ x z, point = ⟨.finite x, .finite z⟩ := by
  obtain ⟨x, z⟩ := point
  rw [isFinite, Bool.and_eq_true, Extended.isFinite_iff, Extended.isFinite_iff]
  constructor
  · rintro ⟨⟨x, rfl⟩, ⟨z, rfl⟩⟩
    exact ⟨x, z, rfl⟩
  · rintro ⟨x, z, h⟩
    cases h
    exact ⟨⟨x, rfl⟩, ⟨z, rfl⟩⟩

theorem isFinite_finite (x z : K) : isFinite ⟨Extended.finite x, .finite z⟩ = true :=
  isFinite_iff.mpr ⟨x, z, rfl⟩

theorem length_finite (x z : K) :
    length ⟨Extended.finite x, .finite z⟩ =
      .ok (.finite (SquareRoot.root (x * x + z * z))) :=
  rfl

/-- A point is at no distance from itself. -/
theorem distance_self [IsStrictOrderedRing K] {point : Vec2 (Extended K)}
    (h : point.isFinite = true) :
    point.distance point = .ok 0 := by
  obtain ⟨x, z, rfl⟩ := isFinite_iff.mp h
  have hroot : SquareRoot.root ((x - x) * (x - x) + (z - z) * (z - z)) = (0 : K) := by
    rw [sub_self, sub_self, mul_zero, add_zero]
    have hzero := SquareRoot.root_square (0 : K)
    rwa [mul_zero, abs_zero] at hzero
  exact congrArg (fun root => Except.ok (Extended.finite root)) hroot

end Vec2

namespace NavMesh

/-- The centers of the triangles are points. -/
def FiniteCenters (mesh : NavMesh (Extended K)) : Prop :=
  ∀ triangle, (mesh.triangleCenter triangle).isFinite = true

theorem triangleData_center [IsStrictOrderedRing K]
    {vertices : List (Vec2 (Extended K))} {triangle : NavTriangleIndices}
    {data : TriangleData (Extended K)}
    (hvertices : ∀ vertex ∈ vertices, vertex.isFinite = true)
    (h : triangleData vertices triangle = .ok data) : data.center.isFinite = true := by
  unfold triangleData at h
  split at h
  · rename_i first second third hfirst hsecond hthird
    obtain ⟨⟨⟩, -, h⟩ := except_bind_eq_ok.mp h
    obtain ⟨⟨⟩, -, h⟩ := except_bind_eq_ok.mp h
    obtain ⟨center, hcenter, h⟩ := except_bind_eq_ok.mp h
    obtain ⟨bounds, -, h⟩ := except_bind_eq_ok.mp h
    cases h
    obtain ⟨x, z, rfl⟩ := Vec2.isFinite_iff.mp (hvertices _ (List.mem_of_getElem? hfirst))
    obtain ⟨x', z', rfl⟩ := Vec2.isFinite_iff.mp (hvertices _ (List.mem_of_getElem? hsecond))
    obtain ⟨x'', z'', rfl⟩ := Vec2.isFinite_iff.mp (hvertices _ (List.mem_of_getElem? hthird))
    obtain ⟨⟨⟩, hscalar, h⟩ := except_bind_eq_ok.mp hcenter
    cases h
    have hthree : (3.0 : K) ≠ 0 := by norm_num
    have hquotient (value : K) : Extended.finite value / (3.0 : Extended K) =
        .finite (value / 3.0) := Extended.finite_div hthree
    change Vec2.isFinite ⟨Extended.finite (x + x' + x'') / 3.0,
      Extended.finite (z + z' + z'') / 3.0⟩ = true
    rw [hquotient, hquotient]
    exact Vec2.isFinite_finite _ _
  · cases h

theorem build_finiteCenters [IsStrictOrderedRing K] {vertices : List (Vec2 (Extended K))}
    {triangles : List NavTriangleIndices} {gridCellSize : Extended K}
    {mesh : NavMesh (Extended K)} (h : build vertices triangles gridCellSize = .ok mesh) :
    mesh.FiniteCenters := by
  unfold build at h
  obtain ⟨⟨⟩, -, h⟩ := except_bind_eq_ok.mp h
  obtain ⟨hfinite, h⟩ := throwIf_bind_eq_ok.mp h
  obtain ⟨data, hdata, h⟩ := except_bind_eq_ok.mp h
  obtain ⟨⟨⟩, -, h⟩ := except_bind_eq_ok.mp h
  obtain ⟨gridCells, -, h⟩ := except_bind_eq_ok.mp h
  cases h
  have hvertices : ∀ vertex ∈ vertices, vertex.isFinite = true := by
    simpa using hfinite
  intro triangle
  unfold triangleCenter
  cases hfound : (List.map _ data.zipIdx)[triangle.toNat]? with
  | none => exact Vec2.isFinite_finite 0 0
  | some owner =>
    obtain ⟨⟨source, index⟩, hsource, rfl⟩ := List.mem_map.mp (List.mem_of_getElem? hfound)
    obtain ⟨indices, -, hcenter⟩ := except_mapM_mem hdata (List.fst_mem_of_mem_zipIdx hsource)
    have hfinite : source.center.isFinite = true := triangleData_center hvertices hcenter
    exact hfinite

theorem searchPath_pathTo {R : Type} [Precision R] {mesh : NavMesh R}
    {start destination : Vec2 R} {startTriangle destinationTriangle : TriangleId}
    {rounds : Nat} {search : PathSearch R} {path : NavPath R}
    (h : mesh.searchPath start destination startTriangle destinationTriangle rounds search =
      .ok (some path)) :
    ∃ triangles, path = mesh.pathTo start destination triangles := by
  induction rounds generalizing search with
  | zero => cases h
  | succ rounds ih =>
    rw [searchPath] at h
    split at h
    · cases h
    · dsimp only at h
      split at h
      · exact ih h
      · split at h
        · cases h
          exact ⟨_, rfl⟩
        · obtain ⟨next, -, h⟩ := except_bind_eq_ok.mp h
          exact ih h

/-- A path leads from the start over centers to the destination. -/
theorem findPath_pathTo {R : Type} [Precision R] {mesh : NavMesh R}
    {start destination : Vec2 R} {path : NavPath R}
    (h : mesh.findPath start destination = .ok (some path)) :
    ∃ triangles, path = mesh.pathTo start destination triangles := by
  unfold findPath at h
  obtain ⟨⟨⟩, -, h⟩ := except_bind_eq_ok.mp h
  obtain ⟨startQuery, -, h⟩ := except_bind_eq_ok.mp h
  obtain ⟨destinationQuery, -, h⟩ := except_bind_eq_ok.mp h
  split at h
  · obtain ⟨hCost, -, h⟩ := except_bind_eq_ok.mp h
    exact searchPath_pathTo h
  · cases h

/-- A path between points leads over points. -/
theorem FiniteCenters.pathTo {mesh : NavMesh (Extended K)} (hmesh : mesh.FiniteCenters)
    {start destination : Vec2 (Extended K)} (hstart : start.isFinite = true)
    (hdestination : destination.isFinite = true) (triangles : List TriangleId) :
    ∀ waypoint ∈ (mesh.pathTo start destination triangles).waypoints,
      waypoint.isFinite = true := by
  intro waypoint hwaypoint
  rcases List.mem_cons.mp hwaypoint with rfl | hlater
  · exact hstart
  rcases List.mem_append.mp hlater with hcenter | hlast
  · obtain ⟨triangle, -, rfl⟩ := List.mem_map.mp hcenter
    exact hmesh triangle
  · rw [List.mem_singleton.mp hlast]
    exact hdestination

theorem findPath_finite {R : Type} [Precision R] {mesh : NavMesh R}
    {start destination : Vec2 R} {path : Option (NavPath R)}
    (h : mesh.findPath start destination = .ok path) :
    start.isFinite = true ∧ destination.isFinite = true := by
  obtain ⟨hfinite, -⟩ := throwIf_bind_eq_ok.mp h
  simpa using hfinite

end NavMesh

namespace NavAgent

/-- A walk between points ends at a point. -/
theorem walk_finite {targets : List (Vec2 (Extended K))}
    (htargets : ∀ target ∈ targets, target.isFinite = true)
    {agent : NavAgent (Extended K)} (hagent : agent.position.isFinite = true) (movement : K) :
    ∃ walked, agent.walk targets (.finite movement) = (walked, .ok ()) := by
  induction targets generalizing agent movement with
  | nil => exact ⟨agent, rfl⟩
  | cons target targets ih =>
    have hlater : ∀ later ∈ targets, later.isFinite = true := fun later hlater =>
      htargets later (List.mem_cons_of_mem target hlater)
    have htarget := htargets target List.mem_cons_self
    obtain ⟨x, z, hx⟩ := Vec2.isFinite_iff.mp hagent
    obtain ⟨x', z', rfl⟩ := Vec2.isFinite_iff.mp htarget
    have hlength : Vec2.length (⟨.finite x', .finite z'⟩ - agent.position) =
        .ok (.finite (SquareRoot.root ((x' - x) * (x' - x) + (z' - z) * (z' - z)))) := by
      rw [hx]
      rfl
    rw [walk]
    split
    · dsimp only
      rw [hlength, attempt_ok]
      split
      · have hskipped :
            { agent with nextWaypoint := agent.nextWaypoint + 1 }.position.isFinite =
              true := hagent
        exact ih hlater hskipped movement
      · split
        · exact ⟨_, rfl⟩
        · exact ih hlater htarget (movement - _)
    · exact ⟨agent, rfl⟩

/-- An agent on its way over points ticks without an exception. -/
theorem tick_finite {agent : NavAgent (Extended K)} {speed seconds : K}
    (hposition : agent.position.isFinite = true)
    (hwaypoints : ∀ waypoint ∈ agent.waypoints.drop agent.nextWaypoint,
      waypoint.isFinite = true)
    (hspeed : agent.speed = .finite speed) (hseconds : 0 ≤ seconds) :
    ∃ ticked, agent.tick (.finite seconds) = (ticked, .ok ()) := by
  have haccepted : (!Scalar.isFinite (Extended.finite seconds) ||
      decide (Extended.finite seconds < 0)) = false := by
    simp [hseconds]
  unfold tick
  rw [haccepted, if_neg Bool.false_ne_true, hspeed]
  split
  · exact ⟨agent, rfl⟩
  · obtain ⟨walked, hwalked⟩ := walk_finite hwaypoints hposition (speed * seconds)
    rw [Extended.finite_mul, hwalked]
    dsimp only
    rw [attempt_ok]
    split
    · exact ⟨_, rfl⟩
    · exact ⟨_, rfl⟩

/-! ## Agents between points -/

/-- Where the agent is, where it goes and how fast are all finite. -/
structure IsFinite (agent : NavAgent (Extended K)) : Prop where
  position : agent.position.isFinite = true
  waypoints : ∀ waypoint ∈ agent.waypoints, waypoint.isFinite = true
  speed : Scalar.isFinite agent.speed = true

theorem IsFinite.halt {agent : NavAgent (Extended K)} (h : agent.IsFinite)
    (state : NavAgentState) : (agent.halt state).IsFinite :=
  ⟨h.position, nofun, h.speed⟩

theorem IsFinite.walk {agent : NavAgent (Extended K)} (h : agent.IsFinite)
    {targets : List (Vec2 (Extended K))}
    (htargets : ∀ target ∈ targets, target.isFinite = true) (movement : K) :
    (agent.walk targets (.finite movement)).1.IsFinite := by
  induction targets generalizing agent movement with
  | nil => exact h
  | cons target targets ih =>
    obtain ⟨htarget, hlater⟩ := List.forall_mem_cons.mp htargets
    obtain ⟨x, z, hposition⟩ := Vec2.isFinite_iff.mp h.position
    obtain ⟨x', z', rfl⟩ := Vec2.isFinite_iff.mp htarget
    have hlength : Vec2.length (⟨.finite x', .finite z'⟩ - agent.position) =
        .ok (.finite (SquareRoot.root ((x' - x) * (x' - x) + (z' - z) * (z' - z)))) := by
      rw [hposition]
      rfl
    rw [NavAgent.walk]
    split
    · dsimp only
      rw [hlength, attempt_ok]
      split
      · have hskipped : IsFinite { agent with nextWaypoint := agent.nextWaypoint + 1 } :=
          ⟨h.position, h.waypoints, h.speed⟩
        exact ih hskipped hlater movement
      next hnonzero =>
        have hdivides : SquareRoot.root ((x' - x) * (x' - x) + (z' - z) * (z' - z)) ≠ 0 :=
          fun hzero => hnonzero (Extended.equal_iff.mpr (congrArg Extended.finite hzero))
        split
        · refine ⟨?_, h.waypoints, h.speed⟩
          rw [Extended.finite_div hdivides, hposition]
          exact Vec2.isFinite_finite _ _
        · have harrived : IsFinite { agent with
              position := ⟨.finite x', .finite z'⟩, nextWaypoint := agent.nextWaypoint + 1 } :=
            ⟨htarget, h.waypoints, h.speed⟩
          exact ih harrived hlater _
    · exact h

theorem IsFinite.tick {agent : NavAgent (Extended K)} (h : agent.IsFinite)
    (deltaSeconds : Extended K) : (agent.tick deltaSeconds).1.IsFinite := by
  unfold NavAgent.tick
  split
  · exact h
  next haccepted =>
    split
    · exact h
    · simp only [Bool.or_eq_true, not_or, Bool.not_eq_true', Bool.not_eq_false] at haccepted
      obtain ⟨seconds, rfl⟩ := Extended.isFinite_iff.mp haccepted.1
      obtain ⟨speed, hspeed⟩ := Extended.isFinite_iff.mp h.speed
      have htargets : ∀ target ∈ agent.waypoints.drop agent.nextWaypoint,
          target.isFinite = true := fun target htarget =>
        h.waypoints target (List.mem_of_mem_drop htarget)
      have hwalked := h.walk htargets (speed * seconds)
      rw [hspeed, Extended.finite_mul]
      refine attempt_object (P := IsFinite) hwalked fun _ _ => ?_
      split
      · exact ⟨hwalked.position, hwalked.waypoints, hwalked.speed⟩
      · exact hwalked

theorem IsFinite.setDestination {mesh : NavMesh (Extended K)} (hmesh : mesh.FiniteCenters)
    {agent : NavAgent (Extended K)} (h : agent.IsFinite) (destination : Vec2 (Extended K)) :
    (agent.setDestination mesh destination).1.IsFinite := by
  unfold NavAgent.setDestination
  split
  · exact h.halt .invalidDestination
  refine attempt_object (P := IsFinite) h fun path hpath => ?_
  split
  · exact h.halt .invalidDestination
  next path =>
    obtain ⟨hstart, hdestination⟩ := NavMesh.findPath_finite hpath
    refine attempt_object (P := IsFinite) h fun distance _ => ?_
    split
    · exact ⟨hdestination, nofun, h.speed⟩
    · obtain ⟨triangles, rfl⟩ := NavMesh.findPath_pathTo hpath
      exact ⟨h.position, hmesh.pathTo hstart hdestination triangles, h.speed⟩

theorem create_isFinite {mesh : NavMesh (Extended K)} {position : Vec2 (Extended K)}
    {speed stoppingDistance : Extended K} {agent : NavAgent (Extended K)}
    (h : create mesh position speed stoppingDistance = .ok agent) : agent.IsFinite := by
  obtain ⟨hvalid, h⟩ := throwIf_bind_eq_ok.mp h
  obtain ⟨triangle, -, h⟩ := except_bind_eq_ok.mp h
  obtain ⟨-, h⟩ := throwIf_bind_eq_ok.mp h
  obtain rfl := Except.ok.inj h
  simp only [Bool.or_eq_false_iff, Bool.not_eq_false'] at hvalid
  exact ⟨hvalid.1.1.1.1, nofun, hvalid.1.1.1.2⟩

end NavAgent

end SurvivalArena
