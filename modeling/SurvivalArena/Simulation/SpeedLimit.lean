import SurvivalArena.Framework.OrderedMap
import SurvivalArena.Simulation.ActorReadings
import SurvivalArena.Simulation.AgentWalk
import SurvivalArena.Simulation.MatchRun
import SurvivalArena.Simulation.SpawnedMatch

/-!
# The speed limit of a match

Over the real numbers no actor gets further in a tick than its stopping distance or its
speed allows, whatever the players submit.
-/

namespace SurvivalArena

open Machine

namespace OfflineMatch

section Phases

variable {R : Type} [Precision R]

/-- What the phases that follow the movement leave alone. -/
def placement (game : OfflineMatch R) :
    List (ActorId × ActorRole × Vec2 R) × List (NavAgent R) × MatchConfig R × NavMesh R :=
  (game.actors.map CombatActor.body, game.agents, game.config, game.navMesh)

theorem collectLoot_placement (game : OfflineMatch R) :
    game.collectLoot.1.placement = game.placement :=
  congrArg (·, _) (collectLoot_reading body_ignoresHarm body_ignoresWeapon game)

theorem fight_placement (game : OfflineMatch R) (commands : List (MatchCommand R)) :
    (game.fight commands).1.placement = game.placement := by
  have hbodies := fight_reading body_ignoresHarm body_ignoresCooldown game commands
  have hrest : (game.fight commands).1.placement.2 = game.placement.2 := by
    unfold fight
    refine attempt_keeps (fun fought => (placement fought).2) rfl fun actors => ?_
    refine attempt_keeps (fun fought => (placement fought).2) rfl fun ranks => ?_
    refine attempt_keeps (fun fought => (placement fought).2) rfl fun resolution => ?_
    exact attempt_keeps (fun fought => (placement fought).2) rfl fun resolution => rfl
  exact Prod.ext hbodies hrest

theorem shrinkZone_placement (game : OfflineMatch R) :
    game.shrinkZone.1.placement = game.placement :=
  congrArg (·, _) (shrinkZone_reading body_ignoresHarm game)

theorem conclude_placement (game : OfflineMatch R) :
    game.conclude.1.placement = game.placement := by
  have hbodies := conclude_reading body_ignoresHarm game
  have hrest : game.conclude.1.placement.2 = game.placement.2 := by
    unfold conclude
    dsimp only
    split
    · rfl
    split
    · exact attempt_keeps (fun concluded => (placement concluded).2) rfl fun winner => rfl
    split
    · exact attempt_keeps (fun concluded => (placement concluded).2) rfl fun winner => rfl
    · rfl
  exact Prod.ext hbodies hrest

/-- A tick's placement is that of its movement, if it comes to that. -/
theorem resolve_placement (game : OfflineMatch R) (commands : List (MatchCommand R))
    (tickEvents : List MatchEvent) {directed moved : OfflineMatch R}
    (hdirected : game.setDestinations commands = (directed, .ok ()))
    (hmoved : directed.move = (moved, .ok ())) :
    (game.resolve commands tickEvents).1.placement = moved.placement := by
  unfold resolve
  rw [hdirected]
  dsimp only
  rw [attempt_ok, hmoved]
  dsimp only
  rw [attempt_ok]
  have hcollected := moved.collectLoot_placement
  generalize moved.collectLoot = collected at hcollected ⊢
  have hfought := (collected.1.fight_placement commands).trans hcollected
  generalize collected.1.fight commands = fought at hfought ⊢
  have hshrunk := fought.1.shrinkZone_placement.trans hfought
  generalize fought.1.shrinkZone = shrunk at hshrunk ⊢
  have hconcluded := shrunk.1.conclude_placement.trans hshrunk
  generalize shrunk.1.conclude = concluded at hconcluded ⊢
  refine attempt_keeps placement hcollected fun _ => ?_
  refine attempt_keeps placement hfought fun _ => ?_
  refine attempt_keeps placement hshrunk fun _ => ?_
  exact attempt_keeps placement hconcluded fun _ => hconcluded

/-! ## The selected commands -/

/-- The command is that of a living actor, which can reach the destination. -/
def Reaches (game : OfflineMatch R) (command : MatchCommand R) : Prop :=
  ∃ actor, findActor game.actors command.actor = some actor ∧ actor.alive = true ∧
    ∀ destination, command.moveDestination = some destination →
      ∃ path, game.navMesh.findPath actor.position destination = .ok (some path)

theorem validCommand_reaches {game : OfflineMatch R} {command : MatchCommand R}
    (h : game.validCommand command = .ok true) : game.Reaches command := by
  unfold validCommand at h
  split at h
  · cases h
  next actor hactor =>
    split at h
    · cases h
    next halive =>
      simp only [Bool.or_eq_true, not_or, Bool.not_eq_true', Bool.not_eq_false] at halive
      obtain ⟨reachable, hreachable, h⟩ := except_bind_eq_ok.mp h
      have hboth : (reachable && game.validTarget actor command) = true := Except.ok.inj h
      rw [(Bool.and_eq_true_iff.mp hboth).1] at hreachable
      refine ⟨actor, hactor, halive.1, fun destination hdestination => ?_⟩
      unfold validDestination at hreachable
      rw [hdestination] at hreachable
      dsimp only at hreachable
      split at hreachable
      · cases hreachable
      · obtain ⟨path, hpath, hsome⟩ := except_bind_eq_ok.mp hreachable
        obtain ⟨path, rfl⟩ := Option.isSome_iff_exists.mp (Except.ok.inj hsome)
        exact ⟨path, hpath⟩

/-- The selected commands are kept under their actors. -/
def Reachable (game : OfflineMatch R) (selection : CommandSelection R) : Prop :=
  ∀ (actor : ActorId) (command : MatchCommand R), selection.selected[actor]? = some command →
    command.actor = actor ∧ game.Reaches command

theorem processCommand_reachable {game : OfflineMatch R} {disconnectedActors : List ActorId}
    {selection selection' : CommandSelection R} {command : MatchCommand R}
    (hselection : game.Reachable selection)
    (h : game.processCommand disconnectedActors selection command = .ok selection') :
    game.Reachable selection' := by
  unfold processCommand at h
  split at h
  · obtain rfl := Except.ok.inj h
    exact hselection
  obtain ⟨valid, hvalid, h⟩ := except_bind_eq_ok.mp h
  obtain rfl := Except.ok.inj h
  cases valid with
  | false => exact hselection
  | true =>
    intro actor other hother
    change (selection.selected.insert command.actor command)[actor]? = some other at hother
    rw [OrderedMap.getElem?_insert] at hother
    split at hother
    next hactor =>
      obtain rfl := Option.some.inj hother
      exact ⟨hactor.symm, validCommand_reaches hvalid⟩
    next => exact hselection actor other hother

theorem foldlM_reachable {game : OfflineMatch R} {disconnectedActors : List ActorId}
    {commands : List (MatchCommand R)} {selection selection' : CommandSelection R}
    (hselection : game.Reachable selection)
    (h : commands.foldlM (game.processCommand disconnectedActors) selection = .ok selection') :
    game.Reachable selection' := by
  induction commands generalizing selection with
  | nil =>
    obtain rfl := Except.ok.inj h
    exact hselection
  | cons command commands ih =>
    rw [List.foldlM_cons] at h
    obtain ⟨next, hnext, h⟩ := except_bind_eq_ok.mp h
    exact ih (processCommand_reachable hselection hnext) h

theorem selectCommands_reachable {game : OfflineMatch R} {disconnectedActors : List ActorId}
    {commands : List (MatchCommand R)} {selection : CommandSelection R}
    (h : game.selectCommands disconnectedActors commands = .ok selection) :
    game.Reachable selection := by
  obtain ⟨own, hown, h⟩ := except_bind_eq_ok.mp h
  have hempty : game.Reachable {} := by
    intro actor command hcommand
    simp at hcommand
  have hreachable := foldlM_reachable hempty hown
  split at h
  · obtain ⟨botCommands, -, h⟩ := except_bind_eq_ok.mp h
    exact foldlM_reachable hreachable h
  · obtain rfl := Except.ok.inj h
    exact hreachable

/-- The commands that a tick carries out are those of different actors. -/
theorem Reachable.values {game : OfflineMatch R} {selection : CommandSelection R}
    (h : game.Reachable selection) :
    (selection.selected.values.map MatchCommand.actor).Nodup ∧
      ∀ command ∈ selection.selected.values, game.Reaches command := by
  refine ⟨OrderedMap.nodup_values fun actor command hcommand => (h actor command hcommand).1,
    fun command hcommand => ?_⟩
  obtain ⟨actor, hactor⟩ := OrderedMap.exists_of_mem_values hcommand
  exact (h actor command hactor).2

end Phases

/-! ## Actors and their agents -/

/-- The speed of the actors of a role. -/
def speedOf {R : Type} [Scalar R] (config : MatchConfig R) (role : ActorRole) : R :=
  if role = .contender then config.contenderSpeed else config.neutralSpeed

/-- The agent stands where its actor stands. -/
structure Paired (config : MatchConfig (Extended ℝ))
    (body : ActorId × ActorRole × Vec2 (Extended ℝ)) (agent : NavAgent (Extended ℝ)) : Prop where
  position : agent.position = body.2.2
  onRoute : agent.OnRoute
  speed : agent.speed = speedOf config body.2.1
  stoppingDistance : agent.stoppingDistance = agentStoppingDistance

/-- What holds of a match between its ticks. -/
structure Placed (config : MatchConfig (Extended ℝ)) (game : OfflineMatch (Extended ℝ)) :
    Prop where
  mesh : game.navMesh.FiniteCenters
  same : game.config = config
  tickRate : config.tickRate ≠ 0
  paired : List.Forall₂ (Paired config) (game.actors.map CombatActor.body) game.agents

variable {config : MatchConfig (Extended ℝ)}

theorem Placed.congr {game final : OfflineMatch (Extended ℝ)} (h : Placed config game)
    (hsame : final.placement = game.placement) : Placed config final := by
  obtain ⟨hbodies, hrest⟩ := Prod.mk.inj hsame
  obtain ⟨hagents, hrest⟩ := Prod.mk.inj hrest
  obtain ⟨hconfig, hmesh⟩ := Prod.mk.inj hrest
  refine ⟨?_, hconfig.trans h.same, h.tickRate, ?_⟩
  · rw [hmesh]
    exact h.mesh
  · rw [hbodies, hagents]
    exact h.paired

theorem Placed.agent {game : OfflineMatch (Extended ℝ)} (h : Placed config game) {index : Nat}
    {actor : CombatActor (Extended ℝ)} (hactor : game.actors[index]? = some actor) :
    ∃ agent, game.agents[index]? = some agent ∧ Paired config actor.body agent := by
  have hlength := h.paired.length_eq
  rw [List.length_map] at hlength
  obtain ⟨hindex, hsame⟩ := List.getElem?_eq_some_iff.mp hactor
  have hbound : index < game.agents.length := hlength ▸ hindex
  refine ⟨game.agents[index], List.getElem?_eq_getElem hbound, ?_⟩
  have hpair := List.forall₂_iff_get.mp h.paired |>.2 index (by simpa using hindex) hbound
  simpa [hsame] using hpair

/-! ## Setting destinations -/

theorem findActorIndex_of_findActor {R : Type} [Precision R] {game : OfflineMatch R}
    {id : ActorId} {actor : CombatActor R} (h : findActor game.actors id = some actor) :
    ∃ index, game.findActorIndex id = some index ∧ game.actors[index]? = some actor ∧
      actor.id = id := by
  obtain ⟨hid, index, hindex, hsame, hbefore⟩ := List.find?_eq_some_iff_getElem.mp h
  refine ⟨index, ?_, ?_, of_decide_eq_true hid⟩
  · refine List.findIdx?_eq_some_iff_getElem.mpr ⟨hindex, ?_, ?_⟩
    · rw [hsame]
      exact hid
    · intro earlier hearlier
      have := hbefore earlier hearlier
      simpa using this
  · rw [← hsame]
    exact List.getElem?_eq_getElem hindex

/-- The agents of the living actors that have a command may have been sent somewhere. -/
structure Directed (ids : List ActorId) (game directed : OfflineMatch (Extended ℝ)) : Prop where
  same : directed = { game with agents := directed.agents }
  length : directed.agents.length = game.agents.length
  sent : ∀ (index : Nat) (actor : CombatActor (Extended ℝ)) (agent : NavAgent (Extended ℝ)),
    game.actors[index]? = some actor → game.agents[index]? = some agent →
    ∃ sent, directed.agents[index]? = some sent ∧ (sent = agent ∨
      actor.id ∈ ids ∧ actor.alive = true ∧ NavAgent.Sent agent sent)

/-- A destination with a path to it is accepted. -/
theorem Directed.cons {ids : List ActorId} {game directed : OfflineMatch (Extended ℝ)}
    {index : Nat} {actor : CombatActor (Extended ℝ)} {agent sent : NavAgent (Extended ℝ)}
    (hactor : game.actors[index]? = some actor) (halive : actor.alive = true)
    (hagent : game.agents[index]? = some agent) (hsent : NavAgent.Sent agent sent)
    (hnew : actor.id ∉ ids)
    (h : Directed ids { game with agents := game.agents.set index sent } directed) :
    Directed (actor.id :: ids) game directed where
  same := h.same
  length := h.length.trans List.length_set
  sent other actor' agent' hactor' hagent' := by
    by_cases hother : other = index
    · rw [hother] at hactor' hagent' ⊢
      obtain rfl := Option.some.inj (hactor.symm.trans hactor')
      obtain rfl := Option.some.inj (hagent.symm.trans hagent')
      obtain ⟨hbound, -⟩ := List.getElem?_eq_some_iff.mp hagent
      obtain ⟨final, hfinal, hcases⟩ := h.sent index actor sent hactor
        (List.getElem?_set_self hbound)
      refine ⟨final, hfinal, .inr ⟨List.mem_cons_self, halive, ?_⟩⟩
      rcases hcases with rfl | ⟨hmem, -, -⟩
      · exact hsent
      · exact absurd hmem hnew
    · obtain ⟨final, hfinal, hcases⟩ := h.sent other actor' agent' hactor'
        ((List.getElem?_set_ne (Ne.symm hother)).trans hagent')
      refine ⟨final, hfinal, hcases.imp_right fun hlater => ?_⟩
      exact ⟨List.mem_cons_of_mem _ hlater.1, hlater.2⟩

theorem Directed.refl (game : OfflineMatch (Extended ℝ)) : Directed [] game game :=
  ⟨rfl, rfl, fun _ _ agent _ hagent => ⟨agent, hagent, .inl rfl⟩⟩

theorem Directed.weaken {ids : List ActorId} {game directed : OfflineMatch (Extended ℝ)}
    (h : Directed ids game directed) (id : ActorId) : Directed (id :: ids) game directed where
  same := h.same
  length := h.length
  sent index actor agent hactor hagent := by
    obtain ⟨final, hfinal, hcases⟩ := h.sent index actor agent hactor hagent
    exact ⟨final, hfinal, hcases.imp_right fun hsent =>
      ⟨List.mem_cons_of_mem id hsent.1, hsent.2⟩⟩

/-- Destinations of different actors with paths to them are all accepted. -/
theorem setDestinations_directed {commands : List (MatchCommand (Extended ℝ))}
    (hactors : (commands.map MatchCommand.actor).Nodup)
    (game : OfflineMatch (Extended ℝ)) (hmesh : game.navMesh.FiniteCenters)
    (hreaches : ∀ command ∈ commands, game.Reaches command)
    (hpaired : ∀ (index : Nat) (actor : CombatActor (Extended ℝ)),
      game.actors[index]? = some actor → actor.id ∈ commands.map MatchCommand.actor →
      ∃ agent, game.agents[index]? = some agent ∧ agent.OnRoute ∧
        agent.position = actor.position) :
    ∃ directed, game.setDestinations commands = (directed, .ok ()) ∧
      Directed (commands.map MatchCommand.actor) game directed := by
  induction commands generalizing game with
  | nil => exact ⟨game, rfl, .refl game⟩
  | cons command commands ih =>
    obtain ⟨hfirst, hlater⟩ := List.nodup_cons.mp hactors
    have hreachesLater : ∀ command ∈ commands, game.Reaches command := fun later hlater =>
      hreaches later (List.mem_cons_of_mem command hlater)
    rw [setDestinations]
    split
    next =>
      obtain ⟨directed, hdirected, hsent⟩ := ih hlater game hmesh hreachesLater
        fun index actor hactor hmem =>
          hpaired index actor hactor (List.mem_cons_of_mem _ hmem)
      exact ⟨directed, hdirected, hsent.weaken command.actor⟩
    next destination hdestination =>
      obtain ⟨actor, hactor, halive, hpath⟩ := hreaches command List.mem_cons_self
      obtain ⟨path, hpath⟩ := hpath destination hdestination
      obtain ⟨index, hindex, hactorAt, hid⟩ := findActorIndex_of_findActor hactor
      obtain ⟨agent, hagent, honRoute, hposition⟩ := hpaired index actor hactorAt
        (by rw [hid]; exact List.mem_cons_self)
      rw [hindex, Option.bind_some, hagent, Option.map_some]
      dsimp only
      rw [← hposition] at hpath
      rw [NavAgent.setDestination_accepts hpath, attempt_ok, if_pos rfl]
      have hsent := NavAgent.setDestination_sent hmesh honRoute destination
      have hstill : ∀ (other : Nat) (actor' : CombatActor (Extended ℝ)),
          game.actors[other]? = some actor' → actor'.id ∈ commands.map MatchCommand.actor →
          ∃ agent', (game.agents.set index
              (agent.setDestination game.navMesh destination).1)[other]? = some agent' ∧
            agent'.OnRoute ∧ agent'.position = actor'.position := by
        intro other actor' hactor' hmem
        have hother : index ≠ other := by
          rintro rfl
          obtain rfl := Option.some.inj (hactorAt.symm.trans hactor')
          exact hfirst (hid ▸ hmem)
        rw [List.getElem?_set_ne hother]
        exact hpaired other actor' hactor' (List.mem_cons_of_mem _ hmem)
      obtain ⟨directed, hdirected, hall⟩ := ih hlater { game with
        agents := game.agents.set index (agent.setDestination game.navMesh destination).1 }
        hmesh hreachesLater hstill
      refine ⟨directed, hdirected, ?_⟩
      rw [List.map_cons, ← hid]
      exact .cons hactorAt halive hagent hsent (hid ▸ hfirst) hall

/-! ## The movement -/

def movedActor {R : Type} [Precision R] (tickSeconds : R) (actor : CombatActor R)
    (agent : NavAgent R) : CombatActor R :=
  if actor.alive then { actor with position := (agent.tick tickSeconds).1.position } else actor

def movedAgent {R : Type} [Precision R] (tickSeconds : R) (actor : CombatActor R)
    (agent : NavAgent R) : NavAgent R :=
  if actor.alive then (agent.tick tickSeconds).1 else agent

theorem moveActors_eq {R : Type} [Precision R] {tickSeconds : R} {actors : List (CombatActor R)}
    {agents : List (NavAgent R)} (hlength : actors.length = agents.length)
    (hticks : ∀ agent ∈ agents, (agent.tick tickSeconds).2 = .ok ()) :
    moveActors tickSeconds actors agents =
      ((List.zipWith (movedActor tickSeconds) actors agents,
        List.zipWith (movedAgent tickSeconds) actors agents), .ok ()) := by
  induction actors generalizing agents with
  | nil =>
    obtain rfl := List.length_eq_zero_iff.mp hlength.symm
    rfl
  | cons actor actors ih =>
    cases agents with
    | nil => cases hlength
    | cons agent agents =>
      obtain ⟨hagent, hlater⟩ := List.forall_mem_cons.mp hticks
      rw [moveActors, ih (Nat.succ.inj hlength) hlater, List.zipWith_cons_cons,
        List.zipWith_cons_cons, movedActor, movedAgent]
      cases halive : actor.alive with
      | false => simp
      | true => simp [hagent]

/-- The actor is where its stopping distance or its speed let it get in a tick. -/
def WithinReach (config : MatchConfig (Extended ℝ))
    (before after : CombatActor (Extended ℝ)) : Prop :=
  after.id = before.id ∧ ∃ moved, before.position.distance after.position = .ok moved ∧
    moved ≤ Scalar.max agentStoppingDistance
      (speedOf config before.role * (1.0 / Precision.ofUInt32 config.tickRate))

/-- The movement of one actor. -/
theorem moved_within {actor : CombatActor (Extended ℝ)}
    {agent sent : NavAgent (Extended ℝ)} (hpaired : Paired config actor.body agent)
    (hsent : sent = agent ∨ actor.alive = true ∧ NavAgent.Sent agent sent) {seconds : ℝ}
    (hseconds : 0 ≤ seconds)
    (htickSeconds : (1.0 / Precision.ofUInt32 config.tickRate : Extended ℝ) = .finite seconds) :
    (sent.tick (.finite seconds)).2 = .ok () ∧
      Paired config (movedActor (.finite seconds) actor sent).body
        (movedAgent (.finite seconds) actor sent) ∧
      WithinReach config actor (movedActor (.finite seconds) actor sent) := by
  have hposition : agent.position.isFinite = true := hpaired.onRoute.position
  have hsame : agent.position = actor.position := hpaired.position
  have hmoves : NavAgent.Sent agent sent := by
    rcases hsent with rfl | ⟨-, hsent⟩
    · exact .refl hpaired.onRoute
    · exact hsent
  obtain ⟨speed, hspeed, hpositive⟩ := hpaired.onRoute.speed
  have hstopping : agent.stoppingDistance = .finite 0.1 := hpaired.stoppingDistance
  obtain ⟨hticks, hreach, hkept, hstops⟩ := hmoves.tick_within hposition hspeed hpositive.le
    hstopping hseconds
  have hlimit : Scalar.max agentStoppingDistance (speedOf config actor.role *
      (1.0 / Precision.ofUInt32 config.tickRate)) =
        Extended.finite (max 0.1 (speed * seconds)) := by
    have hown : speedOf config actor.role = .finite speed := hpaired.speed.symm.trans hspeed
    rw [htickSeconds, hown, Extended.finite_mul]
    exact Extended.max_finite
  refine ⟨hticks, ?_, ?_⟩
  · unfold movedActor movedAgent
    split
    · exact ⟨rfl, hmoves.onRoute.tick _, hkept.trans hpaired.speed,
        hstops.trans hpaired.stoppingDistance⟩
    next hdead =>
      rcases hsent with rfl | ⟨halive, -⟩
      · exact hpaired
      · exact absurd halive hdead
  · unfold WithinReach
    rw [hlimit]
    unfold movedActor
    split
    · refine ⟨rfl, _, ?_, Extended.finite_le.mpr hreach⟩
      have hexact := Vec2.distance_point agent.position.toPoint
        (sent.tick (.finite seconds)).1.position.toPoint
      rw [Vec2.point_toPoint hposition, Vec2.point_toPoint (hmoves.onRoute.tick _).position]
        at hexact
      rw [← hsame]
      exact hexact
    · refine ⟨rfl, 0, Vec2.distance_self (hsame ▸ hposition), ?_⟩
      exact Extended.finite_le.mpr (le_max_of_le_left (by norm_num))

theorem tickSeconds_finite {config : MatchConfig (Extended ℝ)} (h : config.tickRate ≠ 0) :
    ∃ seconds : ℝ, 0 ≤ seconds ∧
      (1.0 / Precision.ofUInt32 config.tickRate : Extended ℝ) = .finite seconds := by
  have hrate : ((config.tickRate.toNat : ℕ) : ℝ) ≠ 0 := by
    rw [Nat.cast_ne_zero]
    exact fun hzero => h (UInt32.toNat_inj.mp hzero)
  refine ⟨1.0 / (config.tickRate.toNat : ℝ), ?_, Extended.finite_div hrate⟩
  positivity

/-- A movement after the destinations were set. -/
theorem move_within {game directed : OfflineMatch (Extended ℝ)} (h : Placed config game)
    {ids : List ActorId} (hdirected : Directed ids game directed) :
    ∃ moved, directed.move = (moved, .ok ()) ∧ Placed config moved ∧
      List.Forall₂ (WithinReach config) game.actors moved.actors := by
  obtain ⟨hsame, hsize, hsent⟩ := hdirected
  obtain ⟨seconds, hseconds, htickSeconds⟩ := tickSeconds_finite h.tickRate
  have hlength : game.actors.length = directed.agents.length := by
    have hpaired := h.paired.length_eq
    rw [List.length_map] at hpaired
    rw [hsize, hpaired]
  have hactors : directed.actors = game.actors := by rw [hsame]
  have hconfig : directed.config = config := by rw [hsame, ← h.same]
  have hmesh : directed.navMesh = game.navMesh := by rw [hsame]
  have hmoves : List.Forall₂ (fun actor (sent : NavAgent (Extended ℝ)) =>
      (sent.tick (.finite seconds)).2 = .ok () ∧
        Paired config (movedActor (.finite seconds) actor sent).body
          (movedAgent (.finite seconds) actor sent) ∧
        WithinReach config actor (movedActor (.finite seconds) actor sent))
      game.actors directed.agents := by
    refine List.forall₂_iff_get.mpr ⟨hlength, fun index hindex hindex' => ?_⟩
    have hactor : game.actors[index]? = some (game.actors.get ⟨index, hindex⟩) :=
      List.getElem?_eq_getElem hindex
    obtain ⟨agent, hagent, hpaired⟩ := h.agent hactor
    obtain ⟨sent, hfound, hcases⟩ := hsent index _ agent hactor hagent
    have hget : directed.agents.get ⟨index, hindex'⟩ = sent :=
      Option.some.inj ((List.getElem?_eq_getElem hindex').symm.trans hfound)
    rw [hget]
    exact moved_within hpaired (hcases.imp_right And.right) hseconds htickSeconds
  have hticks : ∀ agent ∈ directed.agents, (agent.tick (.finite seconds)).2 = .ok () := by
    intro agent hagent
    obtain ⟨actor, -, hactor⟩ := Aligned.mem_right hmoves hagent
    exact hactor.1
  refine ⟨{ directed with
    actors := List.zipWith (movedActor (.finite seconds)) game.actors directed.agents
    agents := List.zipWith (movedAgent (.finite seconds)) game.actors directed.agents },
    ?_, ⟨hmesh ▸ h.mesh, hconfig, h.tickRate, ?_⟩, ?_⟩
  · unfold move
    rw [hconfig, htickSeconds, hactors]
    dsimp only
    rw [moveActors_eq hlength hticks]
  · exact List.forall₂_map_left_iff.mpr
      (Aligned.zipWith (fun actor sent hactor => hactor.2.1) hmoves)
  · exact Aligned.zipWith_left (fun actor sent hactor => hactor.2.2) hmoves

/-! ## A tick -/

theorem WithinReach.congr {before between after : CombatActor (Extended ℝ)}
    (h : WithinReach config before between)
    (hbody : after.body = between.body) : WithinReach config before after := by
  obtain ⟨hid, hrest⟩ := Prod.mk.inj hbody
  obtain ⟨-, hposition⟩ := Prod.mk.inj hrest
  unfold WithinReach
  rw [hid, hposition]
  exact h

theorem stopping_le_max (limit : Extended ℝ) :
    (0 : Extended ℝ) ≤ Scalar.max agentStoppingDistance limit := by
  cases limit with
  | infinite => rfl
  | minusInfinite =>
    show (0 : Extended ℝ) ≤ Extended.finite 0.1
    exact Extended.finite_le.mpr (by norm_num)
  | finite limit =>
    have hmax : Scalar.max agentStoppingDistance (.finite limit) =
        Extended.finite (max 0.1 limit) := Extended.max_finite
    rw [hmax]
    exact Extended.finite_le.mpr (le_max_of_le_left (by norm_num))

theorem WithinReach.of_body {before between after : CombatActor (Extended ℝ)}
    (hbody : between.body = before.body)
    (h : WithinReach config between after) : WithinReach config before after := by
  obtain ⟨hid, hrest⟩ := Prod.mk.inj hbody
  obtain ⟨hrole, hposition⟩ := Prod.mk.inj hrest
  unfold WithinReach at h ⊢
  rw [← hid, ← hrole, ← hposition]
  exact h

/-- Who does not move is within reach. -/
theorem Placed.stays {game final : OfflineMatch (Extended ℝ)} (h : Placed config game)
    (hsame : final.actors.map CombatActor.body = game.actors.map CombatActor.body) :
    List.Forall₂ (WithinReach config) game.actors final.actors := by
  have hrest : List.Forall₂ (WithinReach config) game.actors game.actors := by
    refine List.forall₂_same.mpr fun actor hactor => ⟨rfl, 0, ?_, ?_⟩
    · obtain ⟨agent, -, hpaired⟩ := Aligned.mem_left h.paired
        (List.mem_map.mpr ⟨actor, hactor, rfl⟩)
      have hfinite := hpaired.onRoute.position
      rw [hpaired.position] at hfinite
      exact Vec2.distance_self hfinite
    · exact stopping_le_max _
  exact Aligned.compose (fun _ _ _ hwithin hbody => hwithin.congr hbody) hrest
    (Aligned.of_map_eq hsame).flip

/-- The step lemma. -/
theorem step_within {game : OfflineMatch (Extended ℝ)} (h : Placed config game) :
    Placed config game.step.1 ∧
      List.Forall₂ (WithinReach config) game.actors game.step.1.actors := by
  cases hcounts : game.countsTick with
  | false =>
    rw [step_uncounted hcounts]
    exact ⟨h, h.stays rfl⟩
  | true =>
    have hstarted : game.started.placement = game.placement :=
      congrArg (·, _) (started_reading body_ignoresHarm game _)
    have hbodies := congrArg Prod.fst hstarted
    simp only [countsTick, Bool.and_eq_true, bne_iff_ne, ne_eq, beq_iff_eq] at hcounts
    obtain ⟨⟨hactive, hcounted⟩, hpaired⟩ := hcounts
    unfold step stepImpl
    rw [if_neg (by simp [hactive]), if_neg hcounted, if_neg (not_not.mpr hpaired)]
    dsimp only
    by_cases hrefused : countAliveContenders game.actors ≤ game.disconnecting.length
    · rw [if_pos hrefused]
      exact ⟨h.congr rfl, h.stays rfl⟩
    rw [if_neg hrefused]
    show Placed config (attempt game.started (game.started.selectCommands game.disconnecting
      game.queuedCommands) _).1 ∧ List.Forall₂ _ _ (attempt game.started
        (game.started.selectCommands game.disconnecting game.queuedCommands) _).1.actors
    refine attempt_object (P := fun final : OfflineMatch (Extended ℝ) => Placed config final ∧
      List.Forall₂ (WithinReach config) game.actors final.actors)
      ⟨h.congr hstarted, h.stays hbodies⟩ fun selection hselection => ?_
    have hplaced := h.congr hstarted
    obtain ⟨hactors, hreaches⟩ := (selectCommands_reachable hselection).values
    obtain ⟨directed, hdirected, hsent⟩ := setDestinations_directed hactors game.started
      hplaced.mesh hreaches fun index actor hactor _ => by
        obtain ⟨agent, hagent, hown⟩ := hplaced.agent hactor
        exact ⟨agent, hagent, hown.onRoute, hown.position⟩
    obtain ⟨moved, hmoved, hthere, hwithin⟩ := move_within hplaced hsent
    have hfinal := game.started.resolve_placement selection.selected.values
      (game.openingEvents selection) hdirected hmoved
    refine ⟨hthere.congr hfinal, ?_⟩
    have hreach : List.Forall₂ (WithinReach config) game.started.actors moved.actors :=
      hwithin
    have hbefore : List.Forall₂ (WithinReach config) game.actors moved.actors :=
      Aligned.compose (S := WithinReach config) (T := WithinReach config)
        (fun _ _ _ hbody hreach => WithinReach.of_body hbody hreach)
        (Aligned.of_map_eq hbodies).flip hreach
    exact Aligned.compose (R := WithinReach config) (T := WithinReach config)
      (fun _ _ _ hreach hbody => hreach.congr hbody) hbefore
      (Aligned.of_map_eq (congrArg Prod.fst hfinal)).flip

/-! ## Runs -/

theorem spawnAgent_paired {navMesh : NavMesh (Extended ℝ)} {actor : CombatActor (Extended ℝ)}
    {agent : NavAgent (Extended ℝ)}
    (h : spawnAgent navMesh config actor = .ok agent) : Paired config actor.body agent := by
  obtain ⟨honRoute, hposition, hspeed, hstopping⟩ := NavAgent.create_onRoute h
  refine ⟨hposition, honRoute, hspeed.trans ?_, hstopping⟩
  rw [CombatActor.isContender]
  exact if_congr decide_eq_true_iff rfl rfl

theorem Starts.placed [Trigonometry (Extended ℝ)] {navMesh : NavMesh (Extended ℝ)}
    (hmesh : navMesh.FiniteCenters) {started : OfflineMatch (Extended ℝ)}
    (h : Starts navMesh config started) : Placed config started := by
  obtain ⟨created, hcreated, hstarted⟩ := except_bind_eq_ok.mp h
  have hrate := validateMatchConfig_tickRate (create_config hcreated)
  obtain ⟨-, -, hcreated⟩ := except_bind_eq_ok.mp hcreated
  obtain rfl := Except.ok.inj hcreated
  obtain ⟨-, -, hstarted⟩ := except_bind_eq_ok.mp hstarted
  obtain ⟨spawned, hspawned, hstarted⟩ := except_bind_eq_ok.mp hstarted
  obtain rfl := Except.ok.inj hstarted
  obtain ⟨-, -, hspawned⟩ := except_bind_eq_ok.mp hspawned
  obtain ⟨state, -, hspawned⟩ := except_bind_eq_ok.mp hspawned
  obtain ⟨agents, hagents, hspawned⟩ := except_bind_eq_ok.mp hspawned
  obtain ⟨loot, -, hspawned⟩ := except_bind_eq_ok.mp hspawned
  obtain rfl := Except.ok.inj hspawned
  refine ⟨hmesh, rfl, ?_, ?_⟩
  · rw [hrate]
    decide
  · exact List.forall₂_map_left_iff.mpr
      ((except_mapM_forall₂ hagents).imp fun _ _ => spawnAgent_paired)

theorem call_placed {game : OfflineMatch (Extended ℝ)} (h : Placed config game)
    (call : MatchCall (Extended ℝ)) : Placed config (game.call call).1 ∧
      List.Forall₂ (WithinReach config) game.actors (game.call call).1.actors := by
  cases call with
  | submit command =>
    show Placed config (game.submit command).1 ∧ List.Forall₂ _ _ (game.submit command).1.actors
    unfold submit
    split
    · exact ⟨h, h.stays rfl⟩
    · exact ⟨h.congr rfl, h.stays rfl⟩
  | submitLifecycle command =>
    show Placed config (game.submitLifecycle command).1 ∧
      List.Forall₂ _ _ (game.submitLifecycle command).1.actors
    unfold submitLifecycle
    split
    · exact ⟨h, h.stays rfl⟩
    · exact ⟨h.congr rfl, h.stays rfl⟩
  | step => exact step_within h
  | drainEvents => exact ⟨h.congr rfl, h.stays rfl⟩

theorem after_placed {game : OfflineMatch (Extended ℝ)} (h : Placed config game)
    (calls : List (MatchCall (Extended ℝ))) : Placed config (after call game calls) := by
  induction calls generalizing game with
  | nil => exact h
  | cons event calls ih => exact ih (call_placed h event).1

end OfflineMatch

/-- A mesh that was built. -/
structure BuiltMesh where
  vertices : List (Vec2 (Extended ℝ))
  triangles : List NavTriangleIndices
  gridCellSize : Extended ℝ
  navMesh : NavMesh (Extended ℝ)
  built : NavMesh.build vertices triangles gridCellSize = .ok navMesh

/-- An agent on a mesh, whatever it was told so far. -/
structure MeshAgent where
  mesh : BuiltMesh
  agent : NavAgent (Extended ℝ)
  reachable : agent.Reachable mesh.navMesh

/-- A match on a mesh, and the calls it has taken since its start. -/
structure PlayedMatch [Trigonometry (Extended ℝ)] where
  mesh : BuiltMesh
  config : MatchConfig (Extended ℝ)
  started : OfflineMatch (Extended ℝ)
  starts : started.Starts mesh.navMesh config
  calls : List (MatchCall (Extended ℝ))

noncomputable def PlayedMatch.game [Trigonometry (Extended ℝ)] (run : PlayedMatch) :
    OfflineMatch (Extended ℝ) :=
  after OfflineMatch.call run.started run.calls

end SurvivalArena
