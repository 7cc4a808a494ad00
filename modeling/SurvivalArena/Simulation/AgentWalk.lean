import SurvivalArena.Framework.Polyline
import SurvivalArena.Simulation.ExactMovement

/-!
# How far an agent walks

Over the real numbers a tick is a walk along the way-points that are left: it goes as far
as speed and time allow, and two ticks go as far as one.
-/

/-- The real value of a number, which the infinities have not. -/
def Extended.toReal : Extended ℝ → ℝ
  | .finite value => value
  | _ => 0

namespace SurvivalArena

/-- A point of the plane as a vector of the program. -/
def point (p : ℂ) : Vec2 (Extended ℝ) :=
  ⟨.finite p.re, .finite p.im⟩

namespace Vec2

def toPoint (vector : Vec2 (Extended ℝ)) : ℂ :=
  ⟨vector.x.toReal, vector.z.toReal⟩

@[simp]
theorem toPoint_point (p : ℂ) : (point p).toPoint = p :=
  rfl

theorem point_toPoint {vector : Vec2 (Extended ℝ)} (h : vector.isFinite = true) :
    point vector.toPoint = vector := by
  obtain ⟨x, z, rfl⟩ := isFinite_iff.mp h
  rfl

@[simp]
theorem point_isFinite (p : ℂ) : (point p).isFinite = true :=
  isFinite_finite p.re p.im

/-- Distances of the program are those of the plane. -/
theorem length_between (p q : ℂ) : length (point q - point p) = .ok (.finite (dist p q)) := by
  have hsquares : (q.re - p.re) * (q.re - p.re) + (q.im - p.im) * (q.im - p.im) =
      (p.re - q.re) ^ 2 + (p.im - q.im) ^ 2 := by ring
  rw [Complex.dist_eq_re_im, ← hsquares]
  exact length_finite (q.re - p.re) (q.im - p.im)

theorem distance_point (p q : ℂ) : (point p).distance (point q) = .ok (.finite (dist p q)) :=
  length_between p q

/-- A part of the way from one point to another. -/
theorem point_lineMap {p q : ℂ} {part whole : ℝ} (hwhole : whole ≠ 0) :
    point p + (point q - point p) * (Extended.finite part / .finite whole) =
      point (AffineMap.lineMap p q (part / whole)) := by
  rw [Extended.finite_div hwhole]
  have hparts : AffineMap.lineMap p q (part / whole) = p + (q - p) * ((part / whole : ℝ) : ℂ) := by
    rw [AffineMap.lineMap_apply_module', Complex.real_smul]
    ring
  rw [hparts]
  show (⟨.finite _, .finite _⟩ : Vec2 (Extended ℝ)) = ⟨.finite _, .finite _⟩
  simp [Complex.add_re, Complex.add_im]

end Vec2

namespace NavAgent

open Polyline

theorem walk_eq {agent : NavAgent (Extended ℝ)} {p : ℂ} (h : agent.position = point p)
    (targets : List ℂ) (movement : ℝ) :
    agent.walk (targets.map point) (.finite movement) =
      ({ agent with
         position := point (Polyline.walk p targets movement).1
         nextWaypoint := agent.nextWaypoint + (Polyline.walk p targets movement).2 }, .ok ()) := by
  induction targets generalizing agent p movement with
  | nil =>
    rw [Polyline.walk, ← h]
    rfl
  | cons target targets ih =>
    rw [List.map_cons, walk, h]
    dsimp only
    by_cases hmoves : movement ≤ 0
    · have hstays : ¬(0 : Extended ℝ) < .finite movement := by
        rw [Extended.zero_eq, Extended.finite_lt]
        exact not_lt.mpr hmoves
      rw [if_neg hstays, walk_of_nonpos _ _ hmoves, ← h]
      rfl
    rw [not_le] at hmoves
    have hgoes : (0 : Extended ℝ) < .finite movement := Extended.finite_lt.mpr hmoves
    rw [if_pos hgoes, Vec2.length_between, attempt_ok, Extended.zero_eq]
    by_cases hzero : dist p target = 0
    · obtain rfl := dist_eq_zero.mp hzero
      rw [if_pos (by rw [hzero]; exact Extended.equal_iff.mpr rfl),
        walk_past targets hmoves (hzero.trans_le hmoves.le), hzero, sub_zero,
        @ih { agent with position := point p, nextWaypoint := agent.nextWaypoint + 1 } p rfl]
      dsimp only
      rw [Nat.add_assoc, Nat.add_comm 1]
    rw [if_neg (by
      rw [Extended.equal_iff]
      exact fun hsame => hzero (Extended.finite.inj hsame))]
    by_cases hwithin : movement < dist p target
    · rw [if_pos (Extended.finite_lt.mpr hwithin), walk_within targets hmoves.le hwithin,
        Vec2.point_lineMap hzero]
      rfl
    · rw [if_neg (Extended.finite_lt.not.mpr hwithin),
        walk_past targets hmoves (not_lt.mp hwithin), Extended.finite_sub]
      rw [@ih { agent with position := point target, nextWaypoint := agent.nextWaypoint + 1 }
        target rfl]
      dsimp only
      rw [Nat.add_assoc, Nat.add_comm 1]

/-- What holds of every agent over points. -/
structure OnRoute (agent : NavAgent (Extended ℝ)) : Prop where
  position : agent.position.isFinite = true
  waypoints : ∀ waypoint ∈ agent.waypoints, waypoint.isFinite = true
  speed : ∃ speed, agent.speed = .finite speed ∧ 0 < speed
  stoppingDistance : ∃ distance, agent.stoppingDistance = .finite distance ∧ 0 ≤ distance
  resting : agent.state ≠ .moving → agent.waypoints.drop agent.nextWaypoint = []

/-- The way-points that are left, as points. -/
noncomputable def route (agent : NavAgent (Extended ℝ)) : List ℂ :=
  (agent.waypoints.drop agent.nextWaypoint).map Vec2.toPoint

/-- The length of the way that is left. -/
noncomputable def remaining (agent : NavAgent (Extended ℝ)) : ℝ :=
  Polyline.length agent.position.toPoint agent.route

/-- The agent some way further on. -/
noncomputable def advance (agent : NavAgent (Extended ℝ)) (movement : ℝ) :
    NavAgent (Extended ℝ) :=
  { agent with
    position := point (Polyline.walk agent.position.toPoint agent.route movement).1
    nextWaypoint := agent.nextWaypoint +
      (Polyline.walk agent.position.toPoint agent.route movement).2 }

theorem OnRoute.map_route {agent : NavAgent (Extended ℝ)} (h : agent.OnRoute) :
    agent.route.map point = agent.waypoints.drop agent.nextWaypoint := by
  rw [route, List.map_map]
  have hsame : ∀ waypoint ∈ agent.waypoints.drop agent.nextWaypoint,
      (point ∘ Vec2.toPoint) waypoint = id waypoint := fun waypoint hwaypoint =>
    Vec2.point_toPoint (h.waypoints waypoint (List.mem_of_mem_drop hwaypoint))
  rw [List.map_congr_left hsame, List.map_id]

theorem route_advance (agent : NavAgent (Extended ℝ)) (movement : ℝ) :
    (agent.advance movement).route = agent.route.drop
      (Polyline.walk agent.position.toPoint agent.route movement).2 := by
  simp only [route, advance, ← List.map_drop, List.drop_drop]

theorem remaining_advance (agent : NavAgent (Extended ℝ)) {movement : ℝ} (h : 0 ≤ movement) :
    (agent.advance movement).remaining =
      agent.remaining - min movement agent.remaining := by
  rw [remaining, route_advance]
  exact length_walk agent.position.toPoint agent.route h

theorem advance_zero {agent : NavAgent (Extended ℝ)} (h : agent.OnRoute) :
    agent.advance 0 = agent := by
  unfold advance
  rw [walk_of_nonpos _ _ le_rfl, Vec2.point_toPoint h.position]
  rfl

theorem advance_resting {agent : NavAgent (Extended ℝ)} (h : agent.OnRoute)
    (hresting : agent.state ≠ .moving) (movement : ℝ) : agent.advance movement = agent := by
  have hroute : agent.route = [] := by rw [route, h.resting hresting, List.map_nil]
  unfold advance
  rw [hroute, Polyline.walk, Vec2.point_toPoint h.position]
  rfl

/-- A tick advances the agent as far as speed and time allow. -/
theorem tick_advances {agent : NavAgent (Extended ℝ)} (h : agent.OnRoute) {speed seconds : ℝ}
    (hspeed : agent.speed = .finite speed) (hseconds : 0 ≤ seconds) :
    ∃ state, agent.tick (.finite seconds) =
        ({ agent.advance (speed * seconds) with state }, .ok ()) ∧
      (state ≠ .moving → (agent.advance (speed * seconds)).waypoints.drop
        (agent.advance (speed * seconds)).nextWaypoint = []) := by
  have haccepted : (!Scalar.isFinite (Extended.finite seconds) ||
      decide (Extended.finite seconds < 0)) = false := by
    simp [hseconds]
  unfold tick
  rw [haccepted, if_neg Bool.false_ne_true]
  by_cases hresting : agent.state = .moving
  · by_cases hzero : seconds = 0
    · obtain rfl := hzero
      rw [if_pos (by simp), mul_zero, advance_zero h]
      exact ⟨agent.state, rfl, h.resting⟩
    · have hmoving :
          ¬(Scalar.equal (Extended.finite seconds) 0 || agent.state ≠ .moving) = true := by
        simp [hresting, hzero]
      rw [if_neg hmoving, hspeed, Extended.finite_mul, ← h.map_route]
      dsimp only
      rw [walk_eq (Vec2.point_toPoint h.position).symm, attempt_ok]
      dsimp only
      split
      next harrived =>
        refine ⟨.arrived, rfl, fun _ => ?_⟩
        exact List.drop_eq_nil_of_le harrived.ge
      next => exact ⟨agent.state, rfl, fun hstopped => absurd hresting hstopped⟩
  · rw [if_pos (by simp [hresting]), advance_resting h hresting]
    exact ⟨agent.state, rfl, h.resting⟩

theorem OnRoute.advanced {agent : NavAgent (Extended ℝ)} (h : agent.OnRoute) {movement : ℝ}
    {state : NavAgentState}
    (hresting : state ≠ .moving → (agent.advance movement).waypoints.drop
      (agent.advance movement).nextWaypoint = []) :
    OnRoute { agent.advance movement with state } where
  position := Vec2.point_isFinite _
  waypoints := h.waypoints
  speed := h.speed
  stoppingDistance := h.stoppingDistance
  resting := hresting

/-- A tick of any length keeps the agent over points. -/
theorem OnRoute.tick {agent : NavAgent (Extended ℝ)} (h : agent.OnRoute)
    (deltaSeconds : Extended ℝ) : (agent.tick deltaSeconds).1.OnRoute := by
  by_cases haccepted : ∃ seconds : ℝ, deltaSeconds = .finite seconds ∧ 0 ≤ seconds
  · obtain ⟨seconds, rfl, hseconds⟩ := haccepted
    obtain ⟨speed, hspeed, -⟩ := h.speed
    obtain ⟨state, hticked, hresting⟩ := tick_advances h hspeed hseconds
    rw [hticked]
    exact h.advanced hresting
  · have hrefused : (!Scalar.isFinite deltaSeconds || decide (deltaSeconds < 0)) = true := by
      cases deltaSeconds with
      | infinite => rfl
      | minusInfinite => rfl
      | finite seconds =>
        have hnegative : seconds < 0 := not_le.mp fun hle => haccepted ⟨seconds, rfl, hle⟩
        simp [hnegative]
    unfold NavAgent.tick
    rw [hrefused, if_pos rfl]
    exact h

/-- The agent may have been sent somewhere else from where it was. -/
structure Sent (agent sent : NavAgent (Extended ℝ)) : Prop where
  onRoute : sent.OnRoute
  speed : sent.speed = agent.speed
  stoppingDistance : sent.stoppingDistance = agent.stoppingDistance
  position : sent.position = agent.position ∨
    sent.state ≠ .moving ∧ ∃ distance, agent.position.distance sent.position = .ok distance ∧
      distance ≤ agent.stoppingDistance

theorem Sent.refl {agent : NavAgent (Extended ℝ)} (h : agent.OnRoute) : Sent agent agent :=
  ⟨h, rfl, rfl, .inl rfl⟩

theorem Sent.halt {agent : NavAgent (Extended ℝ)} (h : agent.OnRoute) (state : NavAgentState) :
    Sent agent (agent.halt state) where
  onRoute := ⟨h.position, nofun, h.speed, h.stoppingDistance, fun _ => rfl⟩
  speed := rfl
  stoppingDistance := rfl
  position := .inl rfl

theorem setDestination_sent {mesh : NavMesh (Extended ℝ)} (hmesh : mesh.FiniteCenters)
    {agent : NavAgent (Extended ℝ)} (h : agent.OnRoute) (destination : Vec2 (Extended ℝ)) :
    Sent agent (agent.setDestination mesh destination).1 := by
  unfold setDestination
  split
  · exact Sent.halt h .invalidDestination
  refine attempt_object (P := Sent agent) (.refl h) fun path hpath => ?_
  split
  · exact Sent.halt h .invalidDestination
  next path =>
    obtain ⟨hstart, hdestination⟩ := NavMesh.findPath_finite hpath
    refine attempt_object (P := Sent agent) (.refl h) fun distance hdistance => ?_
    split
    next hnear =>
      exact {
        onRoute := ⟨hdestination, nofun, h.speed, h.stoppingDistance, fun _ => rfl⟩
        speed := rfl
        stoppingDistance := rfl
        position := .inr ⟨nofun, distance, hdistance, hnear⟩ }
    next =>
      obtain ⟨triangles, rfl⟩ := NavMesh.findPath_pathTo hpath
      exact {
        onRoute := ⟨h.position, hmesh.pathTo hstart hdestination triangles, h.speed,
          h.stoppingDistance, fun hstopped => absurd rfl hstopped⟩
        speed := rfl
        stoppingDistance := rfl
        position := .inl rfl }

/-- Where there is a path the destination is accepted. -/
theorem setDestination_accepts {mesh : NavMesh (Extended ℝ)} {agent : NavAgent (Extended ℝ)}
    {destination : Vec2 (Extended ℝ)} {path : NavPath (Extended ℝ)}
    (hpath : mesh.findPath agent.position destination = .ok (some path)) :
    (agent.setDestination mesh destination).2 = .ok true := by
  obtain ⟨hstart, hdestination⟩ := NavMesh.findPath_finite hpath
  have hdistance := Vec2.distance_point agent.position.toPoint destination.toPoint
  rw [Vec2.point_toPoint hstart, Vec2.point_toPoint hdestination] at hdistance
  unfold setDestination
  rw [hdestination, Bool.not_true, if_neg Bool.false_ne_true, hpath, attempt_ok]
  dsimp only
  rw [hdistance, attempt_ok]
  split <;> rfl

/-- In one tick an agent gets as far as the larger of its stopping distance and of what its
speed allows, also when it was sent somewhere before. -/
theorem Sent.tick_within {agent sent : NavAgent (Extended ℝ)} (h : Sent agent sent)
    (hagent : agent.position.isFinite = true) {speed stopping seconds : ℝ}
    (hspeed : agent.speed = .finite speed) (hpositive : 0 ≤ speed)
    (hstopping : agent.stoppingDistance = .finite stopping) (hseconds : 0 ≤ seconds) :
    (sent.tick (.finite seconds)).2 = .ok () ∧
      dist agent.position.toPoint (sent.tick (.finite seconds)).1.position.toPoint ≤
        max stopping (speed * seconds) ∧
      (sent.tick (.finite seconds)).1.speed = agent.speed ∧
      (sent.tick (.finite seconds)).1.stoppingDistance = agent.stoppingDistance := by
  obtain ⟨state, hticked, -⟩ := tick_advances h.onRoute (h.speed.trans hspeed) hseconds
  rw [hticked]
  refine ⟨rfl, ?_, h.speed, h.stoppingDistance⟩
  show dist _ (sent.advance (speed * seconds)).position.toPoint ≤ _
  rcases h.position with hsame | ⟨hresting, distance, hdistance, hnear⟩
  · rw [← hsame]
    exact (dist_walk_le _ _ (mul_nonneg hpositive hseconds)).trans (le_max_right _ _)
  · rw [advance_resting h.onRoute hresting]
    have hexact := Vec2.distance_point agent.position.toPoint sent.position.toPoint
    rw [Vec2.point_toPoint hagent, Vec2.point_toPoint h.onRoute.position, hdistance] at hexact
    rw [Except.ok.inj hexact, hstopping, Extended.finite_le] at hnear
    exact hnear.trans (le_max_left _ _)

/-! ## Reachable agents -/

/-- The agents that creating, sending and ticking lead to. -/
inductive Reachable {R : Type} [Precision R] (mesh : NavMesh R) : NavAgent R → Prop
  | create {position : Vec2 R} {speed stoppingDistance : R} {agent : NavAgent R}
    (hagent : create mesh position speed stoppingDistance = .ok agent) : Reachable mesh agent
  | setDestination {agent : NavAgent R} (destination : Vec2 R) (hagent : Reachable mesh agent) :
    Reachable mesh (agent.setDestination mesh destination).1
  | tick {agent : NavAgent R} (deltaSeconds : R) (hagent : Reachable mesh agent) :
    Reachable mesh (agent.tick deltaSeconds).1

theorem create_onRoute {mesh : NavMesh (Extended ℝ)} {position : Vec2 (Extended ℝ)}
    {speed stoppingDistance : Extended ℝ} {agent : NavAgent (Extended ℝ)}
    (h : create mesh position speed stoppingDistance = .ok agent) :
    agent.OnRoute ∧ agent.position = position ∧ agent.speed = speed ∧
      agent.stoppingDistance = stoppingDistance := by
  obtain ⟨hvalid, h⟩ := throwIf_bind_eq_ok.mp h
  obtain ⟨triangle, -, h⟩ := except_bind_eq_ok.mp h
  obtain ⟨-, h⟩ := throwIf_bind_eq_ok.mp h
  obtain rfl := Except.ok.inj h
  simp only [Bool.or_eq_false_iff, Bool.not_eq_false', decide_eq_false_iff_not] at hvalid
  obtain ⟨⟨⟨⟨hposition, hspeed⟩, hpositive⟩, hstopping⟩, hnonneg⟩ := hvalid
  obtain ⟨speed, rfl⟩ := Extended.isFinite_iff.mp hspeed
  obtain ⟨stopping, rfl⟩ := Extended.isFinite_iff.mp hstopping
  refine ⟨⟨hposition, nofun, ⟨speed, rfl, ?_⟩, ⟨stopping, rfl, ?_⟩, fun _ => rfl⟩, rfl, rfl, rfl⟩
  · exact not_le.mp (Extended.finite_le.not.mp hpositive)
  · exact not_lt.mp (Extended.finite_lt.not.mp hnonneg)

theorem Reachable.onRoute {mesh : NavMesh (Extended ℝ)} (hmesh : mesh.FiniteCenters)
    {agent : NavAgent (Extended ℝ)} (h : agent.Reachable mesh) : agent.OnRoute := by
  induction h with
  | create hagent => exact (create_onRoute hagent).1
  | setDestination destination hagent ih => exact (setDestination_sent hmesh ih destination).onRoute
  | tick deltaSeconds hagent ih => exact ih.tick deltaSeconds

/-- A tick uses up the smaller of what speed and time allow and of the way that is left. -/
theorem tick_remaining {agent : NavAgent (Extended ℝ)} (h : agent.OnRoute) {speed seconds : ℝ}
    (hspeed : agent.speed = .finite speed) (hpositive : 0 ≤ speed) (hseconds : 0 ≤ seconds) :
    (agent.tick (.finite seconds)).1.remaining =
      agent.remaining - min (speed * seconds) agent.remaining := by
  obtain ⟨state, hticked, -⟩ := tick_advances h hspeed hseconds
  rw [hticked]
  exact remaining_advance agent (mul_nonneg hpositive hseconds)

/-- Two ticks lead where one tick of their length together leads. -/
theorem tick_tick {agent : NavAgent (Extended ℝ)} (h : agent.OnRoute) {first second : ℝ}
    (hfirst : 0 ≤ first) (hsecond : 0 ≤ second) :
    ((agent.tick (.finite first)).1.tick (.finite second)).1.position =
        (agent.tick (.finite (first + second))).1.position ∧
      ((agent.tick (.finite first)).1.tick (.finite second)).1.nextWaypoint =
        (agent.tick (.finite (first + second))).1.nextWaypoint := by
  obtain ⟨speed, hspeed, hpositive⟩ := h.speed
  obtain ⟨state, hticked, hresting⟩ := tick_advances h hspeed hfirst
  obtain ⟨state', hticked', -⟩ := tick_advances (h.advanced hresting) hspeed hsecond
  obtain ⟨state'', hboth, -⟩ := tick_advances h hspeed (add_nonneg hfirst hsecond)
  have hadd := walk_add agent.position.toPoint agent.route
    (mul_nonneg hpositive.le hfirst) (mul_nonneg hpositive.le hsecond)
  rw [hticked, hticked', hboth, mul_add]
  dsimp only [advance]
  rw [hadd]
  have hroute : NavAgent.route { agent.advance (speed * first) with state } = agent.route.drop
      (Polyline.walk agent.position.toPoint agent.route (speed * first)).2 :=
    route_advance agent (speed * first)
  dsimp only [advance] at hroute
  rw [hroute]
  exact ⟨rfl, Nat.add_assoc _ _ _⟩

end NavAgent

end SurvivalArena
