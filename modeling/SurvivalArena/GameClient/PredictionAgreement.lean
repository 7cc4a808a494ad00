import SurvivalArena.Framework.Machine
import SurvivalArena.GameClient.ClientPredictor
import SurvivalArena.Simulation.ExactMovement

/-!
# Prediction and authority

The predicted agent follows the server's: both give the agent the destination in
force and then tick it.  The prediction departs from it only where a destination
within the stopping distance moves the predicted agent before the tick.
-/

namespace SurvivalArena

open Machine

variable {R : Type} [Precision R]

/-! ## The authority -/

/-- What a tick of the match does to the agent of a living contender whose command in
force is the input. -/
def serve (mesh : NavMesh R) (agent : NavAgent R) (input : PredictedInput R) :
    NavAgent R × Except Exception Unit :=
  match input.moveDestination with
  | none => agent.tick ClientPredictor.tickSeconds
  | some destination =>
    if !destination.isFinite then agent.tick ClientPredictor.tickSeconds
    else
      attempt agent (mesh.findPath agent.position destination) fun path =>
        if path.isNone then agent.tick ClientPredictor.tickSeconds
        else
          let directed := agent.setDestination mesh destination
          attempt directed.1 directed.2 fun accepted =>
            if accepted then directed.1.tick ClientPredictor.tickSeconds
            else (directed.1, .error (.logicError
              "validated match destination was rejected by NavAgent"))

def authorityStep (mesh : NavMesh R) (agent : NavAgent R) (input : PredictedInput R) :
    NavAgent R :=
  (serve mesh agent input).1

/-! ## Client and authority -/

/-- The client next to the inputs it has issued, which the server processes in turn. -/
structure Prediction (R : Type) where
  predictor : ClientPredictor R
  /-- The server's agent before the first input. -/
  start : NavAgent R
  inputs : List (PredictedInput R) := []
  /-- The predicted position after the last tick or reconciliation. -/
  ticked : Vec2 R

inductive PredictionCall (R : Type) where
  | setDestination (destination : Vec2 R)
  | advanceTick
  | reconcile (acknowledgedSequence : UInt32)

namespace Prediction

/-- The server's agent after an input. -/
def authority (prediction : Prediction R) (sequence : Nat) : NavAgent R :=
  run (authorityStep prediction.predictor.navMesh) prediction.start
    (prediction.inputs.take sequence)

def step (prediction : Prediction R) : PredictionCall R → Prediction R
  | .setDestination destination =>
    { prediction with predictor := (prediction.predictor.setDestination destination).1 }
  | .advanceTick =>
    let advanced := prediction.predictor.advanceTick
    match advanced.2 with
    | .error _ => { prediction with predictor := advanced.1 }
    | .ok input =>
      { prediction with
        predictor := advanced.1
        inputs := prediction.inputs ++ [input]
        ticked := advanced.1.position }
  | .reconcile acknowledgedSequence =>
    let authoritative := prediction.authority acknowledgedSequence.toNat
    let reconciled :=
      prediction.predictor.reconcile authoritative.position acknowledgedSequence
    { prediction with
      predictor := reconciled.1
      ticked := reconciled.1.position }

/-- The client and the server start from the same position. -/
def begin (mesh : NavMesh R) (position : Vec2 R) (speed stoppingDistance : R) :
    Except Exception (Prediction R) := do
  let predictor ← ClientPredictor.create mesh position speed stoppingDistance
  let agent ← NavAgent.create mesh position speed stoppingDistance
  pure { predictor, start := agent, ticked := position }

/-- No destination has moved the predicted agent since its last tick, and the agent
still finds a path to the destination in force before its next tick. -/
def Undisturbed (prediction : Prediction R) : PredictionCall R → Prop
  | .setDestination _ => prediction.predictor.position = prediction.ticked
  | .advanceTick =>
    ∀ destination ∈ prediction.predictor.desiredDestination,
      ∃ path, prediction.predictor.navMesh.findPath prediction.predictor.position
        destination = .ok (some path)
  | .reconcile _ => prediction.predictor.position = prediction.ticked

end Prediction

/-! ## Agents in the same stance -/

/-- The agents differ at most in their paths. -/
structure SameStance {R : Type} (first second : NavAgent R) : Prop where
  position : first.position = second.position
  speed : first.speed = second.speed
  stoppingDistance : first.stoppingDistance = second.stoppingDistance

namespace NavAgent

def arrivedAt (agent : NavAgent R) (destination : Vec2 R) : NavAgent R :=
  { agent.halt .arrived with position := destination }

/-- An agent with a path to its destination. -/
def directed (agent : NavAgent R) (path : NavPath R) (destination : Vec2 R)
    (distance : R) : NavAgent R :=
  if distance ≤ agent.stoppingDistance then agent.arrivedAt destination
  else { agent with waypoints := path.waypoints, nextWaypoint := 1, state := .moving }

theorem setDestination_directed {mesh : NavMesh R} {agent : NavAgent R}
    {destination : Vec2 R} {path : NavPath R} {distance : R}
    (hpath : mesh.findPath agent.position destination = .ok (some path))
    (hdistance : agent.position.distance destination = .ok distance) :
    agent.setDestination mesh destination =
      (agent.directed path destination distance, .ok true) := by
  have hfinite := (NavMesh.findPath_finite hpath).2
  unfold setDestination directed
  rw [if_neg (by simp [hfinite]), hpath, attempt_ok]
  dsimp only
  rw [hdistance, attempt_ok]
  split <;> rfl

/-- The new path replaces all of the old one. -/
theorem directed_congr {first second : NavAgent R} (h : SameStance first second)
    (path : NavPath R) (destination : Vec2 R) (distance : R) :
    first.directed path destination distance =
      second.directed path destination distance := by
  unfold directed arrivedAt halt
  rw [h.position, h.speed, h.stoppingDistance]

/-- How the agent moves. -/
def gait (agent : NavAgent R) : R × R :=
  (agent.speed, agent.stoppingDistance)

theorem walk_gait (agent : NavAgent R) (targets : List (Vec2 R)) (movement : R) :
    (agent.walk targets movement).1.gait = agent.gait := by
  induction targets generalizing agent movement with
  | nil => rfl
  | cons target targets ih =>
    rw [walk]
    split
    · refine attempt_keeps gait rfl fun distance => ?_
      split
      · exact ih _ _
      · split
        · rfl
        · exact ih _ _
    · rfl

theorem tick_gait (agent : NavAgent R) (seconds : R) :
    (agent.tick seconds).1.gait = agent.gait := by
  unfold tick
  split
  · rfl
  · split
    · rfl
    · have hwalked := agent.walk_gait (agent.waypoints.drop agent.nextWaypoint)
        (agent.speed * seconds)
      refine attempt_keeps gait hwalked fun _ => ?_
      split
      · exact hwalked
      · exact hwalked

theorem setDestination_gait (mesh : NavMesh R) (agent : NavAgent R)
    (destination : Vec2 R) :
    (agent.setDestination mesh destination).1.gait = agent.gait := by
  unfold setDestination
  split
  · rfl
  · refine attempt_keeps gait rfl fun path => ?_
    split
    · rfl
    · refine attempt_keeps gait rfl fun distance => ?_
      split <;> rfl

end NavAgent

theorem authorityStep_gait (mesh : NavMesh R) (agent : NavAgent R)
    (input : PredictedInput R) : (authorityStep mesh agent input).gait = agent.gait := by
  unfold authorityStep serve
  split
  · exact agent.tick_gait _
  · rename_i destination _
    split
    · exact agent.tick_gait _
    · refine attempt_keeps NavAgent.gait rfl fun path => ?_
      split
      · exact agent.tick_gait _
      · have hdirected := agent.setDestination_gait mesh destination
        refine attempt_keeps NavAgent.gait hdirected fun accepted => ?_
        split
        · exact (NavAgent.tick_gait _ _).trans hdirected
        · exact hdirected

theorem run_gait (mesh : NavMesh R) (agent : NavAgent R) (inputs : List (PredictedInput R)) :
    (run (authorityStep mesh) agent inputs).gait = agent.gait := by
  induction inputs generalizing agent with
  | nil => rfl
  | cons input inputs ih => exact (ih _).trans (authorityStep_gait mesh agent input)

/-! ## Over exact numbers -/

section Exact

variable {K : Type} [Field K] [LinearOrder K] [FloorRing K] [SquareRoot K]

theorem distance_exists {mesh : NavMesh (Extended K)} {start destination : Vec2 (Extended K)}
    {path : Option (NavPath (Extended K))}
    (h : mesh.findPath start destination = .ok path) :
    ∃ distance, start.distance destination = .ok distance := by
  obtain ⟨hstart, hdestination⟩ := NavMesh.findPath_finite h
  obtain ⟨x, z, rfl⟩ := Vec2.isFinite_iff.mp hstart
  obtain ⟨x', z', rfl⟩ := Vec2.isFinite_iff.mp hdestination
  exact ⟨_, rfl⟩

theorem tickSeconds_exact :
    (ClientPredictor.tickSeconds : Extended K) = .finite (1.0 / 30) := by
  have hthirty : (30 : K) ≠ 0 := by norm_num
  exact Extended.finite_div hthirty

theorem tick_still [IsStrictOrderedRing K] {agent : NavAgent (Extended K)}
    (h : agent.state ≠ .moving) :
    agent.tick ClientPredictor.tickSeconds = (agent, .ok ()) := by
  have hseconds : (0 : K) ≤ 1.0 / 30 := by norm_num
  rw [tickSeconds_exact, NavAgent.tick, if_neg (by simp [hseconds])]
  exact if_pos (by simp [h])

/-- A directed agent ticks without an exception. -/
theorem directed_tick [IsStrictOrderedRing K] {mesh : NavMesh (Extended K)}
    (hmesh : mesh.FiniteCenters)
    {agent : NavAgent (Extended K)} {speed : K} (hspeed : agent.speed = .finite speed)
    {destination : Vec2 (Extended K)} {path : NavPath (Extended K)}
    (hpath : mesh.findPath agent.position destination = .ok (some path))
    (distance : Extended K) :
    ∃ ticked, (agent.directed path destination distance).tick
      ClientPredictor.tickSeconds = (ticked, .ok ()) := by
  obtain ⟨hposition, hdestination⟩ := NavMesh.findPath_finite hpath
  unfold NavAgent.directed
  split
  · exact ⟨_, tick_still (by simp [NavAgent.arrivedAt, NavAgent.halt])⟩
  · rw [tickSeconds_exact]
    refine NavAgent.tick_finite hposition ?_ hspeed (by norm_num)
    obtain ⟨triangles, rfl⟩ := NavMesh.findPath_pathTo hpath
    intro waypoint hwaypoint
    rcases List.mem_append.mp hwaypoint with hcenter | hlast
    · obtain ⟨triangle, -, rfl⟩ := List.mem_map.mp hcenter
      exact hmesh triangle
    · rw [List.mem_singleton.mp hlast]
      exact hdestination

/-- The client and the server do the same to agents in the same stance. -/
theorem apply_serve [IsStrictOrderedRing K] {mesh : NavMesh (Extended K)}
    (hmesh : mesh.FiniteCenters)
    {client server : NavAgent (Extended K)} {speed : K}
    (hspeed : server.speed = .finite speed) (hstance : SameStance client server)
    {input : PredictedInput (Extended K)}
    (hreach : ∀ destination ∈ input.moveDestination,
      ∃ path, mesh.findPath server.position destination = .ok (some path))
    (hwaiting : input.moveDestination = none → client = server ∧ server.state ≠ .moving) :
    ∃ ticked, ClientPredictor.apply mesh client input = (ticked, .ok ()) ∧
      serve mesh server input = (ticked, .ok ()) := by
  unfold ClientPredictor.apply ClientPredictor.direct serve
  cases hdestination : input.moveDestination with
  | none =>
    obtain ⟨rfl, hstill⟩ := hwaiting hdestination
    exact ⟨client, tick_still hstill, tick_still hstill⟩
  | some destination =>
    obtain ⟨path, hpath⟩ := hreach destination hdestination
    obtain ⟨distance, hdistance⟩ := distance_exists hpath
    obtain ⟨ticked, hticked⟩ := directed_tick hmesh hspeed hpath distance
    have hserver := NavAgent.setDestination_directed hpath hdistance
    have hclient : client.setDestination mesh destination =
        (server.directed path destination distance, .ok true) := by
      rw [NavAgent.setDestination_directed (hstance.position ▸ hpath)
        (hstance.position ▸ hdistance), NavAgent.directed_congr hstance]
    have hfinite := (NavMesh.findPath_finite hpath).2
    refine ⟨ticked, ?_, ?_⟩
    · dsimp only
      rw [hclient]
      exact hticked
    · dsimp only
      rw [if_neg (by simp [hfinite]), hpath, attempt_ok, hserver]
      exact hticked

/-- An agent that was moved to the destination ends where the server's is moved by the
tick. -/
theorem apply_serve_moved [IsStrictOrderedRing K] {mesh : NavMesh (Extended K)}
    {client server : NavAgent (Extended K)} {destination : Vec2 (Extended K)}
    (hclient : client.position = destination) (hspeed : client.speed = server.speed)
    (hstopping : client.stoppingDistance = server.stoppingDistance)
    (hnonneg : 0 ≤ server.stoppingDistance)
    {input : PredictedInput (Extended K)} (hinput : input.moveDestination = some destination)
    {path : NavPath (Extended K)}
    (hpath : mesh.findPath server.position destination = .ok (some path))
    {distance : Extended K}
    (hdistance : server.position.distance destination = .ok distance)
    (hnear : distance ≤ server.stoppingDistance)
    {clientPath : NavPath (Extended K)}
    (hclientPath : mesh.findPath client.position destination = .ok (some clientPath)) :
    ∃ ticked, ClientPredictor.apply mesh client input = (ticked, .ok ()) ∧
      serve mesh server input = (ticked, .ok ()) := by
  have hfinite := (NavMesh.findPath_finite hpath).2
  have harrived : server.directed path destination distance =
      server.arrivedAt destination := if_pos hnear
  have hstays : client.directed clientPath destination 0 =
      server.arrivedAt destination := by
    rw [NavAgent.directed, if_pos (hstopping ▸ hnonneg), NavAgent.arrivedAt,
      NavAgent.arrivedAt, NavAgent.halt, NavAgent.halt, hspeed, hstopping]
  have hself : client.position.distance destination = .ok 0 := by
    rw [hclient]
    exact Vec2.distance_self hfinite
  have hstill : (server.arrivedAt destination).state ≠ .moving := by
    simp [NavAgent.arrivedAt, NavAgent.halt]
  refine ⟨server.arrivedAt destination, ?_, ?_⟩
  · unfold ClientPredictor.apply ClientPredictor.direct
    rw [hinput]
    dsimp only
    rw [NavAgent.setDestination_directed hclientPath hself, hstays]
    exact tick_still hstill
  · unfold serve
    rw [hinput]
    dsimp only
    rw [if_neg (by simp [hfinite]), hpath, attempt_ok,
      NavAgent.setDestination_directed hpath hdistance, harrived]
    exact tick_still hstill

/-! ## The invariant -/

/-- An agent as it is created on a mesh. -/
structure Fresh (mesh : NavMesh (Extended K)) (agent : NavAgent (Extended K)) : Prop where
  created : NavAgent.create mesh agent.position agent.speed agent.stoppingDistance =
    .ok agent

/-- The server finds a path to the input's destination, or it waits at the start. -/
structure Served (mesh : NavMesh (Extended K)) (start agent : NavAgent (Extended K))
    (input : PredictedInput (Extended K)) : Prop where
  reaches : ∀ destination ∈ input.moveDestination,
    ∃ path, mesh.findPath agent.position destination = .ok (some path)
  waits : input.moveDestination = none → agent = start

/-- The client was moved to the destination in force, where the next tick moves the
server's agent. -/
structure Moved (mesh : NavMesh (Extended K)) (server client : NavAgent (Extended K))
    (destination : Vec2 (Extended K)) : Prop where
  position : client.position = destination
  reaches : ∃ path, mesh.findPath server.position destination = .ok (some path)
  near : ∃ distance, server.position.distance destination = .ok distance ∧
    distance ≤ server.stoppingDistance

/-- The client between two calls. -/
structure Follows (start : NavAgent (Extended K)) (prediction : Prediction (Extended K)) :
    Prop where
  started : prediction.start = start
  speed : prediction.predictor.speed = start.speed
  stoppingDistance : prediction.predictor.stoppingDistance = start.stoppingDistance
  gait : prediction.predictor.agent.gait = start.gait
  issued : prediction.predictor.lastIssuedSequence.toNat = prediction.inputs.length
  numbered : ∀ index input, prediction.inputs[index]? = some input →
    input.sequence.toNat = index + 1
  acknowledged : prediction.predictor.lastAcknowledgedSequence ≤
    prediction.predictor.lastIssuedSequence
  history : prediction.predictor.history =
    prediction.inputs.drop prediction.predictor.lastAcknowledgedSequence.toNat
  served : Meets (authorityStep prediction.predictor.navMesh)
    (Served prediction.predictor.navMesh start) start prediction.inputs
  waiting : prediction.predictor.desiredDestination = none →
    prediction.predictor.agent = start ∧
      prediction.authority prediction.inputs.length = start
  ticked : prediction.ticked = (prediction.authority prediction.inputs.length).position
  current : prediction.predictor.position =
      (prediction.authority prediction.inputs.length).position ∨
    ∃ destination, prediction.predictor.desiredDestination = some destination ∧
      Moved prediction.predictor.navMesh
        (prediction.authority prediction.inputs.length) prediction.predictor.agent
        destination

theorem create_fresh {mesh : NavMesh (Extended K)} {position : Vec2 (Extended K)}
    {speed stoppingDistance : Extended K} {agent : NavAgent (Extended K)}
    (h : NavAgent.create mesh position speed stoppingDistance = .ok agent) :
    agent = { position, speed, stoppingDistance } ∧
      (∃ finiteSpeed, speed = .finite finiteSpeed) ∧ 0 ≤ stoppingDistance := by
  unfold NavAgent.create at h
  obtain ⟨hvalues, h⟩ := throwIf_bind_eq_ok.mp h
  obtain ⟨triangle, -, h⟩ := except_bind_eq_ok.mp h
  obtain ⟨⟨⟩, -, h⟩ := except_bind_eq_ok.mp h
  cases h
  simp only [Bool.or_eq_false_iff, Bool.not_eq_false', decide_eq_false_iff_not] at hvalues
  obtain ⟨⟨⟨⟨-, hspeed⟩, -⟩, hstopping⟩, hnonneg⟩ := hvalues
  obtain ⟨distance, rfl⟩ := Extended.isFinite_iff.mp hstopping
  refine ⟨rfl, Extended.isFinite_iff.mp hspeed, ?_⟩
  have hvalue : ¬distance < 0 := fun hlt => hnonneg (Extended.finite_lt.mpr hlt)
  exact Extended.finite_le.mpr (not_lt.mp hvalue)

/-- An agent in the server's stance replays what the server processed. -/
theorem replay_run [IsStrictOrderedRing K] {mesh : NavMesh (Extended K)}
    (hmesh : mesh.FiniteCenters)
    {start client server : NavAgent (Extended K)} (hfresh : Fresh mesh start)
    (hgait : server.gait = start.gait) (hstance : SameStance client server)
    {input : PredictedInput (Extended K)} {inputs : List (PredictedInput (Extended K))}
    (hwaits : input.moveDestination = none → client = server)
    (hserved : Meets (authorityStep mesh) (Served mesh start) server (input :: inputs)) :
    ClientPredictor.replay mesh client (input :: inputs) =
      (run (authorityStep mesh) server (input :: inputs), .ok ()) := by
  obtain ⟨hstart, ⟨speed, hspeed⟩, -⟩ := create_fresh hfresh.created
  induction inputs generalizing client server input with
  | nil =>
    obtain ⟨ticked, happly, hserve⟩ := apply_serve hmesh
      ((congrArg Prod.fst hgait).trans hspeed) hstance hserved.1.reaches fun hnone =>
        ⟨hwaits hnone, by rw [hserved.1.waits hnone, hstart]; simp⟩
    rw [ClientPredictor.replay, happly, run_cons, authorityStep, hserve]
    rfl
  | cons next inputs ih =>
    obtain ⟨ticked, happly, hserve⟩ := apply_serve hmesh
      ((congrArg Prod.fst hgait).trans hspeed) hstance hserved.1.reaches fun hnone =>
        ⟨hwaits hnone, by rw [hserved.1.waits hnone, hstart]; simp⟩
    have hlater := ih ((authorityStep_gait mesh server input).trans hgait)
      ⟨rfl, rfl, rfl⟩ (fun _ => rfl) hserved.2
    rw [ClientPredictor.replay, happly, run_cons]
    dsimp only
    rw [attempt_ok, ← hlater, authorityStep, hserve]

section Follows

variable {start : NavAgent (Extended K)} {prediction : Prediction (Extended K)}

theorem Follows.authority_position (h : Follows start prediction)
    (hsettled : prediction.predictor.position = prediction.ticked) :
    prediction.predictor.position =
      (prediction.authority prediction.inputs.length).position :=
  hsettled.trans h.ticked

theorem Follows.authority_gait (h : Follows start prediction) (sequence : Nat) :
    (prediction.authority sequence).gait = start.gait := by
  rw [Prediction.authority, run_gait, h.started]

theorem Follows.authority_all (h : Follows start prediction) :
    prediction.authority prediction.inputs.length =
      run (authorityStep prediction.predictor.navMesh) start prediction.inputs := by
  rw [Prediction.authority, List.take_length, h.started]

theorem follows_setDestination (h : Follows start prediction)
    (hsettled : prediction.predictor.position = prediction.ticked)
    (destination : Vec2 (Extended K)) :
    Follows start (prediction.step (.setDestination destination)) := by
  have hposition := h.authority_position hsettled
  unfold Prediction.step ClientPredictor.setDestination
  dsimp only
  split
  · exact h
  · cases hpath : prediction.predictor.navMesh.findPath prediction.predictor.position
      destination with
    | error e => exact h
    | ok path =>
      rw [attempt_ok]
      cases path with
      | none => exact h
      | some path =>
        obtain ⟨distance, hdistance⟩ := distance_exists hpath
        rw [if_neg (by simp), NavAgent.setDestination_directed hpath hdistance]
        exact {
          started := h.started
          speed := h.speed
          stoppingDistance := h.stoppingDistance
          gait := by
            have hkept := prediction.predictor.agent.setDestination_gait
              prediction.predictor.navMesh destination
            rw [NavAgent.setDestination_directed hpath hdistance] at hkept
            exact hkept.trans h.gait
          issued := h.issued
          numbered := h.numbered
          acknowledged := h.acknowledged
          history := h.history
          served := h.served
          waiting := fun hnone => nomatch hnone
          ticked := h.ticked
          current := by
            by_cases hnear : distance ≤ prediction.predictor.agent.stoppingDistance
            · right
              refine ⟨destination, rfl, ?_, ⟨path, ?_⟩, ⟨distance, ?_, ?_⟩⟩
              · exact congrArg NavAgent.position (if_pos hnear)
              · exact hposition ▸ hpath
              · exact hposition ▸ hdistance
              · have hgait := h.gait.trans (h.authority_gait prediction.inputs.length).symm
                have hstopping : prediction.predictor.agent.stoppingDistance =
                    (prediction.authority prediction.inputs.length).stoppingDistance :=
                  congrArg Prod.snd hgait
                rw [hstopping] at hnear
                exact hnear
            · left
              exact (congrArg NavAgent.position (if_neg hnear)).trans hposition }

/-- Client and server process the next input alike. -/
theorem Follows.apply_next [IsStrictOrderedRing K]
    (hmesh : prediction.predictor.navMesh.FiniteCenters)
    (hfresh : Fresh prediction.predictor.navMesh start) (h : Follows start prediction)
    (hreach : ∀ destination ∈ prediction.predictor.desiredDestination,
      ∃ path, prediction.predictor.navMesh.findPath prediction.predictor.position
        destination = .ok (some path)) {input : PredictedInput (Extended K)}
    (hinput : input.moveDestination = prediction.predictor.desiredDestination) :
    Served prediction.predictor.navMesh start
        (prediction.authority prediction.inputs.length) input ∧
      ∃ ticked,
        ClientPredictor.apply prediction.predictor.navMesh prediction.predictor.agent
          input = (ticked, .ok ()) ∧
        serve prediction.predictor.navMesh
          (prediction.authority prediction.inputs.length) input = (ticked, .ok ()) := by
  obtain ⟨hstart, ⟨speed, hspeed⟩, hnonneg⟩ := create_fresh hfresh.created
  have hserver := h.authority_gait prediction.inputs.length
  have hgait := h.gait.trans hserver.symm
  have hwaits : input.moveDestination = none →
      prediction.authority prediction.inputs.length = start :=
    fun hnone => (h.waiting (hinput.symm.trans hnone)).2
  rcases h.current with hposition | ⟨destination, hdesired, hmoved⟩
  · have hreaches : ∀ destination ∈ input.moveDestination,
        ∃ path, prediction.predictor.navMesh.findPath
          (prediction.authority prediction.inputs.length).position destination =
            .ok (some path) := by
      intro destination hdestination
      rw [← hposition]
      exact hreach destination (hinput ▸ hdestination)
    refine ⟨⟨hreaches, hwaits⟩, ?_⟩
    refine apply_serve hmesh ((congrArg Prod.fst hserver).trans hspeed)
      ⟨hposition, congrArg Prod.fst hgait, congrArg Prod.snd hgait⟩ hreaches ?_
    intro hnone
    rw [hwaits hnone, (h.waiting (hinput.symm.trans hnone)).1]
    refine ⟨rfl, ?_⟩
    rw [hstart]
    simp
  · have hdestination : input.moveDestination = some destination :=
      hinput.trans hdesired
    obtain ⟨path, hpath⟩ := hmoved.reaches
    obtain ⟨distance, hdistance, hnear⟩ := hmoved.near
    obtain ⟨clientPath, hclientPath⟩ := hreach destination hdesired
    refine ⟨⟨fun other hother => ?_, hwaits⟩, ?_⟩
    · cases hdestination.symm.trans hother
      exact ⟨path, hpath⟩
    · have hstopping : (prediction.authority prediction.inputs.length).stoppingDistance =
          start.stoppingDistance := congrArg Prod.snd hserver
      exact apply_serve_moved hmoved.position (congrArg Prod.fst hgait)
        (congrArg Prod.snd hgait) (hstopping ▸ hnonneg) hdestination hpath hdistance hnear
        hclientPath

/-- An input that client and server process alike. -/
theorem follows_issue [IsStrictOrderedRing K]
    (hfresh : Fresh prediction.predictor.navMesh start) (h : Follows start prediction)
    (hsequence : prediction.predictor.lastIssuedSequence ≠ 2 ^ 32 - 1)
    (hserved : Served prediction.predictor.navMesh start
      (prediction.authority prediction.inputs.length) prediction.predictor.nextInput)
    {ticked : NavAgent (Extended K)}
    (hserve : serve prediction.predictor.navMesh
      (prediction.authority prediction.inputs.length) prediction.predictor.nextInput =
        (ticked, .ok ())) :
    Follows start { prediction with
      predictor := prediction.predictor.issue ticked
      inputs := prediction.inputs ++ [prediction.predictor.nextInput]
      ticked := ticked.position } := by
  have hticked : authorityStep prediction.predictor.navMesh
      (prediction.authority prediction.inputs.length) prediction.predictor.nextInput =
        ticked := congrArg Prod.fst hserve
  have hauthority : run (authorityStep prediction.predictor.navMesh) prediction.start
      ((prediction.inputs ++ [prediction.predictor.nextInput]).take
        (prediction.inputs ++ [prediction.predictor.nextInput]).length) = ticked := by
    rw [List.take_length, run_append, ← hticked, Prediction.authority, List.take_length]
    rfl
  have hnext : (prediction.predictor.lastIssuedSequence + 1).toNat =
      prediction.predictor.lastIssuedSequence.toNat + 1 := by
    have hbelow : prediction.predictor.lastIssuedSequence.toNat ≠ 2 ^ 32 - 1 :=
      fun heq => hsequence (UInt32.toNat_inj.mp heq)
    have hlt := prediction.predictor.lastIssuedSequence.toNat_lt
    rw [UInt32.toNat_add, UInt32.toNat_one]
    omega
  exact {
    started := h.started
    speed := h.speed
    stoppingDistance := h.stoppingDistance
    gait := by
      have hkept := authorityStep_gait prediction.predictor.navMesh
        (prediction.authority prediction.inputs.length) prediction.predictor.nextInput
      rw [hticked, h.authority_gait] at hkept
      exact hkept
    issued := by
      rw [List.length_append, ← h.issued]
      exact hnext
    numbered := by
      intro index input hinput
      rw [List.getElem?_append] at hinput
      split at hinput
      · exact h.numbered index input hinput
      · obtain ⟨hindex, hlast⟩ := List.getElem?_eq_some_iff.mp hinput
        rw [List.length_singleton] at hindex
        have hend : index = prediction.inputs.length := by omega
        rw [List.getElem_singleton] at hlast
        rw [← hlast, hend, ← h.issued]
        exact hnext
    acknowledged := by
      have hbefore := UInt32.le_iff_toNat_le.mp h.acknowledged
      refine UInt32.le_iff_toNat_le.mpr ?_
      change prediction.predictor.lastAcknowledgedSequence.toNat ≤
        (prediction.predictor.lastIssuedSequence + 1).toNat
      omega
    history := by
      have hbefore := UInt32.le_iff_toNat_le.mp h.acknowledged
      rw [h.issued] at hbefore
      change prediction.predictor.history ++ [prediction.predictor.nextInput] =
        (prediction.inputs ++ [prediction.predictor.nextInput]).drop
          prediction.predictor.lastAcknowledgedSequence.toNat
      rw [List.drop_append_of_le_length hbefore, h.history]
    served := by
      have hlater : Meets (authorityStep prediction.predictor.navMesh)
          (Served prediction.predictor.navMesh start)
          (run (authorityStep prediction.predictor.navMesh) start prediction.inputs)
          [prediction.predictor.nextInput] := ⟨h.authority_all ▸ hserved, trivial⟩
      exact meets_append.mpr ⟨h.served, hlater⟩
    waiting := by
      intro hnone
      have hdestination : prediction.predictor.nextInput.moveDestination = none := hnone
      have hwaiting : serve prediction.predictor.navMesh start
          prediction.predictor.nextInput = (start, .ok ()) := by
        unfold serve
        rw [hdestination]
        exact tick_still (by rw [(create_fresh hfresh.created).1]; simp)
      rw [(h.waiting hnone).2, hwaiting] at hserve
      have hstart : ticked = start := (congrArg Prod.fst hserve).symm
      exact ⟨hstart, hauthority.trans hstart⟩
    ticked := congrArg NavAgent.position hauthority.symm
    current := .inl (congrArg NavAgent.position hauthority.symm) }

/-- After a tick the predicted agent is the server's. -/
theorem follows_advanceTick [IsStrictOrderedRing K]
    (hmesh : prediction.predictor.navMesh.FiniteCenters)
    (hfresh : Fresh prediction.predictor.navMesh start) (h : Follows start prediction)
    (hreach : ∀ destination ∈ prediction.predictor.desiredDestination,
      ∃ path, prediction.predictor.navMesh.findPath prediction.predictor.position
        destination = .ok (some path)) :
    Follows start (prediction.step .advanceTick) := by
  have hinput : prediction.predictor.nextInput.moveDestination =
      prediction.predictor.desiredDestination := rfl
  obtain ⟨hserved, ticked, happly, hserve⟩ := h.apply_next hmesh hfresh hreach hinput
  unfold Prediction.step ClientPredictor.advanceTick
  dsimp only
  split_ifs with hfull hexhausted
  · exact h
  · exact h
  · rw [happly]
    exact follows_issue hfresh h hexhausted hserved hserve

/-- Of elements numbered from one, those above a number are those after it. -/
theorem filter_numbered {α : Type} {number : α → Nat} {elements : List α}
    (hnumbered : ∀ index element, elements[index]? = some element →
      number element = index + 1) {first last : Nat} (h : first ≤ last) :
    (elements.drop first).filter (fun element => last < number element) =
      elements.drop last := by
  have hsplit : elements.drop first =
      (elements.drop first).take (last - first) ++ elements.drop last := by
    have hrest := List.take_append_drop (last - first) (elements.drop first)
    rw [List.drop_drop, Nat.add_sub_cancel' h] at hrest
    exact hrest.symm
  rw [hsplit, List.filter_append, List.filter_eq_nil_iff.mpr, List.filter_eq_self.mpr,
    List.nil_append]
  · intro element helement
    obtain ⟨index, hindex⟩ := List.mem_iff_getElem?.mp helement
    rw [List.getElem?_drop] at hindex
    have hnumber := hnumbered _ _ hindex
    exact decide_eq_true (by omega)
  · intro element helement
    obtain ⟨index, hindex⟩ := List.mem_iff_getElem?.mp helement
    rw [List.getElem?_take] at hindex
    split at hindex
    · rw [List.getElem?_drop] at hindex
      have hnumber := hnumbered _ _ hindex
      simp only [decide_eq_true_eq]
      omega
    · cases hindex

/-- The inputs above a sequence are those after it. -/
theorem Follows.history_filter (h : Follows start prediction) {sequence : UInt32}
    (hacknowledged : prediction.predictor.lastAcknowledgedSequence ≤ sequence) :
    prediction.predictor.history.filter (fun input => sequence < input.sequence) =
      prediction.inputs.drop sequence.toNat := by
  rw [h.history]
  exact filter_numbered h.numbered (UInt32.le_iff_toNat_le.mp hacknowledged)

/-- What the replay of the inputs after a sequence leads to. -/
theorem Follows.replay_after [IsStrictOrderedRing K]
    (hmesh : prediction.predictor.navMesh.FiniteCenters)
    (hfresh : Fresh prediction.predictor.navMesh start) (h : Follows start prediction)
    {sequence : Nat} {reconciled : NavAgent (Extended K)}
    (hreconciled : NavAgent.create prediction.predictor.navMesh
      (prediction.authority sequence).position start.speed start.stoppingDistance =
        .ok reconciled) :
    ∃ agent, ClientPredictor.replay prediction.predictor.navMesh reconciled
        (prediction.inputs.drop sequence) = (agent, .ok ()) ∧
      agent.gait = start.gait ∧
      agent.position = (prediction.authority prediction.inputs.length).position ∧
      (prediction.predictor.desiredDestination = none → agent = start) := by
  obtain ⟨hagent, -, -⟩ := create_fresh hreconciled
  have hserver := h.authority_gait sequence
  have hstance : SameStance reconciled (prediction.authority sequence) := by
    rw [hagent]
    exact ⟨rfl, (congrArg Prod.fst hserver).symm, (congrArg Prod.snd hserver).symm⟩
  have hstart : prediction.authority sequence = start → reconciled = start := by
    intro hauthority
    rw [hauthority, hfresh.created] at hreconciled
    exact (Except.ok.inj hreconciled).symm
  have hall : prediction.authority prediction.inputs.length =
      run (authorityStep prediction.predictor.navMesh) (prediction.authority sequence)
        (prediction.inputs.drop sequence) := by
    rw [Prediction.authority, Prediction.authority, ← run_append, List.take_append_drop,
      List.take_length]
  cases hlater : prediction.inputs.drop sequence with
  | nil =>
    rw [hlater, run_nil] at hall
    refine ⟨reconciled, rfl, ?_, ?_, fun hnone => ?_⟩
    · rw [hagent]
      rfl
    · rw [hall]
      exact hstance.position
    · exact hstart (hall.symm.trans (h.waiting hnone).2)
  | cons input inputs =>
    have hserved : Meets (authorityStep prediction.predictor.navMesh)
        (Served prediction.predictor.navMesh start) (prediction.authority sequence)
        (input :: inputs) := by
      have hboth := h.served
      rw [← List.take_append_drop sequence prediction.inputs, hlater] at hboth
      have hrest := (meets_append.mp hboth).2
      rw [← h.started] at hrest ⊢
      exact hrest
    rw [hlater] at hall
    have hreplay := replay_run hmesh hfresh hserver hstance
      (fun hnone => (hstart (hserved.1.waits hnone)).trans (hserved.1.waits hnone).symm)
      hserved
    rw [← hall] at hreplay
    exact ⟨_, hreplay, h.authority_gait _, rfl, fun hnone => (h.waiting hnone).2⟩

theorem follows_reconciled (h : Follows start prediction) {sequence : UInt32}
    (hissued : sequence ≤ prediction.predictor.lastIssuedSequence)
    {agent : NavAgent (Extended K)} (hgait : agent.gait = start.gait)
    (hposition : agent.position =
      (prediction.authority prediction.inputs.length).position)
    (hwaiting : prediction.predictor.desiredDestination = none → agent = start) :
    Follows start { prediction with
      predictor := { prediction.predictor with
        agent
        history := prediction.inputs.drop sequence.toNat
        lastAcknowledgedSequence := sequence }
      ticked := agent.position } where
  started := h.started
  speed := h.speed
  stoppingDistance := h.stoppingDistance
  gait := hgait
  issued := h.issued
  numbered := h.numbered
  acknowledged := hissued
  history := rfl
  served := h.served
  waiting hnone := ⟨hwaiting hnone, (h.waiting hnone).2⟩
  ticked := hposition
  current := .inl hposition

theorem follows_reconcile [IsStrictOrderedRing K]
    (hmesh : prediction.predictor.navMesh.FiniteCenters)
    (hfresh : Fresh prediction.predictor.navMesh start) (h : Follows start prediction)
    (hsettled : prediction.predictor.position = prediction.ticked)
    (acknowledgedSequence : UInt32) :
    Follows start (prediction.step (.reconcile acknowledgedSequence)) ∧
      (prediction.step (.reconcile acknowledgedSequence)).predictor.position =
        prediction.predictor.position := by
  have hsame : Follows start { prediction with ticked := prediction.predictor.position } := by
    rw [hsettled]
    exact h
  unfold Prediction.step ClientPredictor.reconcile
  dsimp only
  split
  · exact ⟨hsame, rfl⟩
  · split
    · exact ⟨hsame, rfl⟩
    · rename_i hissued hstale
      cases hcreate : NavAgent.create prediction.predictor.navMesh
        (prediction.authority acknowledgedSequence.toNat).position
        prediction.predictor.speed prediction.predictor.stoppingDistance with
      | error e => exact ⟨hsame, rfl⟩
      | ok reconciled =>
        rw [attempt_ok]
        have hknown : prediction.predictor.lastAcknowledgedSequence ≤
            acknowledgedSequence := UInt32.not_lt.mp hstale
        rw [h.speed, h.stoppingDistance] at hcreate
        obtain ⟨agent, hreplay, hgait, hposition, hwaiting⟩ :=
          h.replay_after hmesh hfresh hcreate
        rw [h.history_filter hknown, hreplay]
        exact ⟨follows_reconciled h (UInt32.not_lt.mp hissued) hgait hposition hwaiting,
          hposition.trans (h.authority_position hsettled).symm⟩

/-- The start, on its mesh. -/
theorem begin_follows {mesh : NavMesh (Extended K)} {position : Vec2 (Extended K)}
    {speed stoppingDistance : Extended K}
    (h : Prediction.begin mesh position speed stoppingDistance = .ok prediction) :
    prediction.predictor.navMesh = mesh ∧ Fresh mesh prediction.start ∧
      Follows prediction.start prediction := by
  obtain ⟨predictor, hpredictor, h⟩ := except_bind_eq_ok.mp h
  obtain ⟨agent, hagent, h⟩ := except_bind_eq_ok.mp h
  obtain ⟨clientAgent, hclient, hpredictor⟩ := except_bind_eq_ok.mp hpredictor
  cases h
  cases hpredictor
  cases hclient.symm.trans hagent
  obtain ⟨rfl, -, -⟩ := create_fresh hagent
  refine ⟨rfl, ⟨hagent⟩, ?_⟩
  exact {
    started := rfl
    speed := rfl
    stoppingDistance := rfl
    gait := rfl
    issued := rfl
    numbered := fun index input hinput => nomatch hinput
    acknowledged := UInt32.le_refl _
    history := rfl
    served := trivial
    waiting := fun _ => ⟨rfl, rfl⟩
    ticked := rfl
    current := .inl rfl }

end Follows

/-! ## Runs -/

theorem setDestination_navMesh {R : Type} [Precision R] (predictor : ClientPredictor R)
    (destination : Vec2 R) :
    (predictor.setDestination destination).1.navMesh = predictor.navMesh := by
  unfold ClientPredictor.setDestination
  split
  · rfl
  · refine attempt_keeps ClientPredictor.navMesh rfl fun path => ?_
    split
    · rfl
    · refine attempt_keeps ClientPredictor.navMesh rfl fun accepted => ?_
      split <;> rfl

theorem advanceTick_navMesh {R : Type} [Precision R] (predictor : ClientPredictor R) :
    predictor.advanceTick.1.navMesh = predictor.navMesh := by
  unfold ClientPredictor.advanceTick
  split
  · rfl
  · split
    · rfl
    · exact attempt_keeps ClientPredictor.navMesh rfl fun _ => rfl

theorem reconcile_navMesh {R : Type} [Precision R] (predictor : ClientPredictor R)
    (position : Vec2 R) (sequence : UInt32) :
    (predictor.reconcile position sequence).1.navMesh = predictor.navMesh := by
  unfold ClientPredictor.reconcile
  split
  · rfl
  · split
    · rfl
    · exact attempt_keeps ClientPredictor.navMesh rfl fun _ => rfl

theorem step_navMesh {R : Type} [Precision R] (prediction : Prediction R)
    (call : PredictionCall R) :
    (prediction.step call).predictor.navMesh = prediction.predictor.navMesh := by
  cases call with
  | setDestination destination => exact setDestination_navMesh _ destination
  | advanceTick =>
    have hkept := advanceTick_navMesh prediction.predictor
    unfold Prediction.step
    dsimp only
    split <;> exact hkept
  | reconcile sequence => exact reconcile_navMesh _ _ sequence

theorem follows_step [IsStrictOrderedRing K] {mesh : NavMesh (Extended K)}
    (hmesh : mesh.FiniteCenters) {start : NavAgent (Extended K)} (hfresh : Fresh mesh start)
    {prediction : Prediction (Extended K)} {call : PredictionCall (Extended K)}
    (hundisturbed : prediction.Undisturbed call)
    (h : prediction.predictor.navMesh = mesh ∧ Follows start prediction) :
    (prediction.step call).predictor.navMesh = mesh ∧
      Follows start (prediction.step call) := by
  obtain ⟨rfl, h⟩ := h
  refine ⟨step_navMesh prediction call, ?_⟩
  cases call with
  | setDestination destination => exact follows_setDestination h hundisturbed destination
  | advanceTick => exact follows_advanceTick hmesh hfresh h hundisturbed
  | reconcile sequence => exact (follows_reconcile hmesh hfresh h hundisturbed sequence).1

/-- A tick that returns numbers its input and predicts from it. -/
theorem step_advanceTick {R : Type} [Precision R] {prediction : Prediction R}
    {input : PredictedInput R} (h : prediction.predictor.advanceTick.2 = .ok input) :
    (prediction.step .advanceTick).predictor.lastIssuedSequence = input.sequence ∧
      (prediction.step .advanceTick).predictor.position =
        (prediction.step .advanceTick).ticked := by
  have hstep : prediction.step .advanceTick = { prediction with
      predictor := prediction.predictor.advanceTick.1
      inputs := prediction.inputs ++ [input]
      ticked := prediction.predictor.advanceTick.1.position } := by
    unfold Prediction.step
    dsimp only
    rw [h]
  rw [hstep]
  refine ⟨?_, rfl⟩
  unfold ClientPredictor.advanceTick at h ⊢
  split at h
  · cases h
  · rename_i hfull
    split at h
    · cases h
    · rename_i hexhausted
      dsimp only at h ⊢
      rw [if_neg hfull, if_neg hexhausted]
      cases happly : (ClientPredictor.apply prediction.predictor.navMesh
          prediction.predictor.agent prediction.predictor.nextInput).2 with
      | error e =>
        rw [happly] at h
        cases h
      | ok done =>
        rw [happly] at h
        cases h
        rfl

/-- In every run in which a destination that moved the predicted agent is followed by
a tick, the prediction agrees with the server after every tick, and a reconciliation
does not move it. -/
theorem prediction_agrees [IsStrictOrderedRing K] {vertices : List (Vec2 (Extended K))}
    {triangles : List NavTriangleIndices} {gridCellSize : Extended K}
    {mesh : NavMesh (Extended K)}
    (hmesh : NavMesh.build vertices triangles gridCellSize = .ok mesh)
    {position : Vec2 (Extended K)} {speed stoppingDistance : Extended K}
    {prediction : Prediction (Extended K)}
    (hbegin : Prediction.begin mesh position speed stoppingDistance = .ok prediction)
    {calls : List (PredictionCall (Extended K))} {call : PredictionCall (Extended K)}
    (hmeets : Meets Prediction.step Prediction.Undisturbed prediction (calls ++ [call])) :
    let before := run Prediction.step prediction calls
    let after := before.step call
    match call with
    | .setDestination _ => True
    | .advanceTick => ∀ input, before.predictor.advanceTick.2 = .ok input →
        after.predictor.position = (after.authority input.sequence.toNat).position
    | .reconcile _ => after.predictor.position = before.predictor.position := by
  intro before after
  obtain ⟨hnavMesh, hfresh, hfollows⟩ := begin_follows hbegin
  have hcenters := NavMesh.build_finiteCenters hmesh
  obtain ⟨hcalls, hlast, -⟩ := meets_append.mp hmeets
  let Invariant (state : Prediction (Extended K)) : Prop :=
    state.predictor.navMesh = mesh ∧ Follows prediction.start state
  have hinvariant : Invariant before :=
    run_invariant_of_meets (I := Invariant) (fun _ _ hundisturbed h =>
      follows_step hcenters hfresh hundisturbed h) ⟨hnavMesh, hfollows⟩ hcalls
  have hafter : after.predictor.navMesh = mesh ∧ Follows prediction.start after :=
    follows_step hcenters hfresh hlast hinvariant
  cases call with
  | setDestination destination => trivial
  | advanceTick =>
    intro input hinput
    obtain ⟨hissued, hticked⟩ := step_advanceTick hinput
    have hlength : input.sequence.toNat = after.inputs.length := by
      rw [← hissued]
      exact hafter.2.issued
    rw [hlength]
    exact hticked.trans hafter.2.ticked
  | reconcile sequence =>
    obtain ⟨hbefore, h⟩ := hinvariant
    exact (follows_reconcile (hbefore ▸ hcenters) (hbefore ▸ hfresh) h hlast sequence).2

end Exact

/-! ## A destination within the stopping distance -/

/-- A square in coarse cells, over the rational numbers. -/
def squareMesh : Except Exception (NavMesh (Extended ℚ)) :=
  NavMesh.build [⟨.finite (-128), .finite (-128)⟩, ⟨.finite 128, .finite (-128)⟩,
    ⟨.finite (-128), .finite 128⟩, ⟨.finite 128, .finite 128⟩]
    [⟨0, 1, 2⟩, ⟨1, 3, 2⟩] (.finite 256)

/-- A client and its server at ten units from the center of the square. -/
def squarePrediction : Except Exception (Prediction (Extended ℚ)) := do
  let mesh ← squareMesh
  Prediction.begin mesh ⟨.finite 10, .finite 0⟩ (.finite 6) (.finite (1 / 10))

theorem squarePrediction_begins {prediction : Prediction (Extended ℚ)}
    (h : squarePrediction = .ok prediction) :
    ∃ mesh, squareMesh = .ok mesh ∧
      Prediction.begin mesh ⟨.finite 10, .finite 0⟩ (.finite 6) (.finite (1 / 10)) =
        .ok prediction :=
  except_bind_eq_ok.mp h

/-- A destination that moves the predicted agent, and another one before the tick. -/
def snapThenTurn : List (PredictionCall (Extended ℚ)) :=
  [.setDestination ⟨.finite (201 / 20), .finite 0⟩,
    .setDestination ⟨.finite 5, .finite 0⟩, .advanceTick]

/-- The client walks from where the first destination moved it, the server from where
it was. -/
theorem snapThenTurn_diverges :
    ∃ mesh prediction, squareMesh = .ok mesh ∧
      Prediction.begin mesh ⟨.finite 10, .finite 0⟩ (.finite 6) (.finite (1 / 10)) =
        .ok prediction ∧
      (run Prediction.step prediction snapThenTurn).inputs.length = 1 ∧
      (run Prediction.step prediction snapThenTurn).predictor.position ≠
        ((run Prediction.step prediction snapThenTurn).authority 1).position := by
  have hrun : squarePrediction.toOption.any (fun prediction =>
      decide ((run Prediction.step prediction snapThenTurn).inputs.length = 1 ∧
        (run Prediction.step prediction snapThenTurn).predictor.position ≠
          ((run Prediction.step prediction snapThenTurn).authority 1).position)) =
        true := by
    decide +kernel
  obtain ⟨prediction, hprediction, htest⟩ := except_any hrun
  obtain ⟨mesh, hmesh, hbegin⟩ := squarePrediction_begins hprediction
  obtain ⟨hissued, hdiverges⟩ := of_decide_eq_true htest
  exact ⟨mesh, prediction, hmesh, hbegin, hissued, hdiverges⟩

/-- The rule for a destination that moves the predicted agent, and the tick after it. -/
theorem prediction_agrees_snapThenTick :
    ∃ prediction, squarePrediction = .ok prediction ∧
      let before := prediction.step (.setDestination ⟨.finite (201 / 20), .finite 0⟩)
      ∀ input, before.predictor.advanceTick.2 = .ok input →
        (before.step .advanceTick).predictor.position =
          ((before.step .advanceTick).authority input.sequence.toNat).position := by
  have hrun : squarePrediction.toOption.any (fun prediction =>
      let before := prediction.step (.setDestination ⟨.finite (201 / 20), .finite 0⟩)
      decide (prediction.predictor.position = prediction.ticked) &&
        (before.predictor.desiredDestination.all fun destination =>
          (before.predictor.navMesh.findPath before.predictor.position
            destination).toOption.join.isSome)) = true := by
    decide +kernel
  obtain ⟨prediction, hprediction, htest⟩ := except_any hrun
  obtain ⟨mesh, hmesh, hbegin⟩ := squarePrediction_begins hprediction
  obtain ⟨hsettled, hreaches⟩ := Bool.and_eq_true_iff.mp htest
  have hsteps : Meets Prediction.step Prediction.Undisturbed prediction
      ([.setDestination ⟨.finite (201 / 20), .finite 0⟩] ++ [.advanceTick]) := by
    refine ⟨?_, fun destination hdestination => ?_, trivial⟩
    · have hposition := of_decide_eq_true hsettled
      exact hposition
    · rw [hdestination, Option.all_some] at hreaches
      obtain ⟨path, hpath⟩ := Option.isSome_iff_exists.mp hreaches
      refine ⟨path, ?_⟩
      exact except_toOption_join hpath
  exact ⟨prediction, hprediction, prediction_agrees hmesh hbegin hsteps⟩

end SurvivalArena
