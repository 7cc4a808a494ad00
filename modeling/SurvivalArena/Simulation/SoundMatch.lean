import SurvivalArena.Simulation.ActorHealth
import SurvivalArena.Simulation.ExactMovement
import SurvivalArena.Simulation.SpawnPlacement

/-!
# What holds of every match over exact numbers

In every state of a match, also after an exception, the actors are healthy, stand at points in
the order of their numbers and have the controllers of their archetypes.
-/

namespace SurvivalArena

open KeyedList Machine

/-! ## What no phase changes -/

def CombatActor.identity {R : Type} (actor : CombatActor R) : ActorId × ActorRole :=
  (actor.id, actor.role)

theorem identities_of_bodies {R : Type} {before after : List (CombatActor R)}
    (h : after.map CombatActor.body = before.map CombatActor.body) :
    after.map CombatActor.identity = before.map CombatActor.identity := by
  have hmapped := congrArg (List.map fun body : ActorId × ActorRole × Vec2 R =>
    (body.1, body.2.1)) h
  rwa [List.map_map, List.map_map] at hmapped

namespace OfflineMatch

section Phases

variable {R : Type} [Precision R]

def lootPlace (item : LootItem R) : LootId × Vec2 R :=
  (item.id, item.position)

/-- What is as the start of the match left it. -/
def fixtures (game : OfflineMatch R) : NavMesh R × MatchConfig R × List NeutralArchetype ×
    List (Option BehaviorNode) × List (LootId × Vec2 R) :=
  (game.navMesh, game.config, game.neutralArchetypes, game.neutralControllers,
    game.loot.map lootPlace)

omit [Precision R] in
theorem deactivate_places (loot : List (LootItem R)) (id : LootId) :
    (deactivate loot id).map lootPlace = loot.map lootPlace := by
  unfold deactivate
  rw [List.map_map]
  refine List.map_congr_left fun item _ => ?_
  rw [Function.comp_apply]
  split <;> rfl

theorem pickUpLoot_places (tick : UInt32) (pickupRadius : R) (actors : List (CombatActor R))
    (loot : List (LootItem R)) :
    (pickUpLoot tick pickupRadius actors loot).1.2.map lootPlace = loot.map lootPlace := by
  induction actors generalizing loot with
  | nil => rfl
  | cons actor actors ih =>
    rw [pickUpLoot]
    split
    · exact ih loot
    next hcontends =>
      refine attempt_object (P := fun picked : List (CombatActor R) × List (LootItem R) =>
        picked.2.map lootPlace = loot.map lootPlace) rfl fun pickup hpickup => ?_
      have hplaces : pickup.loot.map lootPlace = loot.map lootPlace := by
        rcases resolveNearestLootPickup_returned (by simpa using hcontends) hpickup with
          rfl | ⟨item, -, -, rfl⟩
        · rfl
        · exact deactivate_places loot item.id
      exact attempt_keeps (fun picked : List (CombatActor R) × List (LootItem R) =>
        picked.2.map lootPlace) ((ih pickup.loot).trans hplaces)
        fun _ => (ih pickup.loot).trans hplaces

theorem collectLoot_fixtures (game : OfflineMatch R) :
    game.collectLoot.1.fixtures = game.fixtures := by
  have hplaces := pickUpLoot_places game.tick game.config.pickupRadius game.actors game.loot
  unfold fixtures collectLoot
  rw [hplaces]

theorem fight_fixtures (game : OfflineMatch R) (commands : List (MatchCommand R)) :
    ((game.fight commands).1.fixtures, (game.fight commands).1.agents) =
      (game.fixtures, game.agents) := by
  unfold fight
  apply attempt_keeps fun fought => (fixtures fought, agents fought)
  · rfl
  intro actors
  apply attempt_keeps fun fought => (fixtures fought, agents fought)
  · rfl
  intro ranks
  apply attempt_keeps fun fought => (fixtures fought, agents fought)
  · rfl
  intro resolution
  apply attempt_keeps fun fought => (fixtures fought, agents fought)
  · rfl
  exact fun _ => rfl

theorem conclude_fixtures (game : OfflineMatch R) :
    (game.conclude.1.fixtures, game.conclude.1.agents) = (game.fixtures, game.agents) := by
  unfold conclude
  dsimp only
  split
  · rfl
  split
  · exact attempt_keeps (fun concluded => (fixtures concluded, agents concluded)) rfl fun _ => rfl
  split
  · exact attempt_keeps (fun concluded => (fixtures concluded, agents concluded)) rfl fun _ => rfl
  · rfl

theorem moveActors_identities (tickSeconds : R) (actors : List (CombatActor R))
    (agents : List (NavAgent R)) :
    (moveActors tickSeconds actors agents).1.1.map CombatActor.identity =
      actors.map CombatActor.identity := by
  induction actors generalizing agents with
  | nil => rw [moveActors.eq_def]
  | cons actor actors ih =>
    cases agents with
    | nil => rfl
    | cons agent agents =>
      rw [moveActors]
      split
      · dsimp only
        rw [List.map_cons, List.map_cons, ih]
      · apply attempt_keeps fun moved : List (CombatActor R) × List (NavAgent R) =>
          moved.1.map CombatActor.identity
        · rfl
        · intro _
          dsimp only
          rw [List.map_cons, List.map_cons, ih]
          rfl

end Phases

/-! ## Soundness -/

variable {K : Type} [Field K] [LinearOrder K] [FloorRing K] [SquareRoot K]

/-- What the bots rely on in a match. -/
structure Sound (config : MatchConfig (Extended K)) (game : OfflineMatch (Extended K)) :
    Prop where
  mesh : game.navMesh.FiniteCenters
  same : game.config = config
  agents : ∀ agent ∈ game.agents, agent.IsFinite
  numbered : Ascending CombatActor.id game.actors
  points : ∀ actor ∈ game.actors, actor.position.isFinite = true
  healthy : AllHealthy game.actors
  archetypes : List.Forall₂ (fun (actor : CombatActor (Extended K)) archetype =>
    archetype ≠ .none ↔ actor.role = .neutral) game.actors game.neutralArchetypes
  controllers : game.neutralControllers = game.neutralArchetypes.map spawnController
  lootPoints : ∀ item ∈ game.loot, item.position.isFinite = true
  lootIds : (game.loot.map LootItem.id).Nodup

variable {config : MatchConfig (Extended K)} {game final : OfflineMatch (Extended K)}

theorem Sound.distinct (h : Sound config game) : Distinct game.actors :=
  h.numbered.nodup_keys

/-- Other actors of the same numbers and roles. -/
theorem Sound.replace (h : Sound config game) (hfixtures : final.fixtures = game.fixtures)
    (hidentities : final.actors.map CombatActor.identity =
      game.actors.map CombatActor.identity)
    (hagents : ∀ agent ∈ final.agents, agent.IsFinite)
    (hpoints : ∀ actor ∈ final.actors, actor.position.isFinite = true)
    (hhealthy : AllHealthy final.actors) : Sound config final := by
  obtain ⟨hmesh, hrest⟩ := Prod.mk.inj hfixtures
  obtain ⟨hconfig, hrest⟩ := Prod.mk.inj hrest
  obtain ⟨harchetypes, hrest⟩ := Prod.mk.inj hrest
  obtain ⟨hcontrollers, hplaces⟩ := Prod.mk.inj hrest
  have hpairs := Aligned.of_map_eq hidentities
  have hlootPairs := (Aligned.of_map_eq hplaces).flip
  exact {
    mesh := by
      rw [hmesh]
      exact h.mesh
    same := hconfig.trans h.same
    agents := hagents
    numbered := by
      have hids : final.actors.map CombatActor.id = game.actors.map CombatActor.id :=
        Aligned.map_eq (fun _ _ hpair => (Prod.mk.inj hpair).1) hpairs.flip
      rw [← ascending_keys, hids, ascending_keys]
      exact h.numbered
    points := hpoints
    healthy := hhealthy
    archetypes := by
      rw [harchetypes]
      refine Aligned.compose (fun actor other archetype hpair hother => ?_) hpairs h.archetypes
      rw [(Prod.mk.inj hpair).2]
      exact hother
    controllers := by rw [hcontrollers, harchetypes, h.controllers]
    lootPoints := by
      intro item hitem
      obtain ⟨other, hother, hplace⟩ := Aligned.mem_right hlootPairs hitem
      rw [(Prod.mk.inj hplace).2]
      exact h.lootPoints other hother
    lootIds := by
      rw [Aligned.map_eq (fun _ _ hplace => (Prod.mk.inj hplace).1) hlootPairs]
      exact h.lootIds }

/-- A phase after the movement. -/
theorem Sound.phase (h : Sound config game)
    (hfixtures : (final.fixtures, final.agents) = (game.fixtures, game.agents))
    (hbodies : final.actors.map CombatActor.body = game.actors.map CombatActor.body)
    (hhealthy : AllHealthy final.actors) : Sound config final := by
  obtain ⟨hfixed, hagents⟩ := Prod.mk.inj hfixtures
  refine h.replace hfixed (identities_of_bodies hbodies) (hagents ▸ h.agents) ?_ hhealthy
  intro actor hactor
  obtain ⟨other, hother, hbody⟩ := Aligned.mem_right (Aligned.of_map_eq hbodies).flip hactor
  have hposition : actor.position = other.position := congrArg (fun body => body.2.2) hbody
  rw [hposition]
  exact h.points other hother

theorem Sound.setDestinations (h : Sound config game)
    (commands : List (MatchCommand (Extended K))) :
    Sound config (game.setDestinations commands).1 := by
  induction commands generalizing game with
  | nil => exact h
  | cons command commands ih =>
    rw [OfflineMatch.setDestinations]
    split
    · exact ih h
    next destination _ =>
      dsimp only
      split
      · exact h
      next index agent hfound =>
        obtain ⟨found, -, hagent⟩ := Option.bind_eq_some_iff.mp hfound
        obtain ⟨same, hsame, hpair⟩ := Option.map_eq_some_iff.mp hagent
        obtain ⟨rfl, rfl⟩ := Prod.mk.inj hpair
        have hfinite := h.agents _ (List.mem_of_getElem? hsame)
        have hdirected : Sound config { game with
            agents := game.agents.set found
              (same.setDestination game.navMesh destination).1 } :=
          { h with
            agents := fun other hother => by
              rcases List.mem_or_eq_of_mem_set hother with hold | rfl
              · exact h.agents other hold
              · exact hfinite.setDestination h.mesh destination }
        refine attempt_object (P := Sound config) hdirected fun accepted _ => ?_
        split
        · exact ih hdirected
        · exact hdirected

theorem moveActors_finite (tickSeconds : Extended K)
    {actors : List (CombatActor (Extended K))} {agents : List (NavAgent (Extended K))}
    (hactors : ∀ actor ∈ actors, actor.position.isFinite = true)
    (hagents : ∀ agent ∈ agents, agent.IsFinite) :
    (∀ actor ∈ (moveActors tickSeconds actors agents).1.1, actor.position.isFinite = true) ∧
      ∀ agent ∈ (moveActors tickSeconds actors agents).1.2, agent.IsFinite := by
  induction actors generalizing agents with
  | nil =>
    rw [moveActors.eq_def]
    exact ⟨hactors, hagents⟩
  | cons actor actors ih =>
    cases agents with
    | nil => exact ⟨hactors, hagents⟩
    | cons agent agents =>
      obtain ⟨hactor, hactorsLater⟩ := List.forall_mem_cons.mp hactors
      obtain ⟨hagent, hagentsLater⟩ := List.forall_mem_cons.mp hagents
      obtain ⟨hmoved, hwalked⟩ := ih hactorsLater hagentsLater
      have hticked := hagent.tick tickSeconds
      rw [moveActors]
      split
      · exact ⟨List.forall_mem_cons.mpr ⟨hactor, hmoved⟩,
          List.forall_mem_cons.mpr ⟨hagent, hwalked⟩⟩
      · apply attempt_object (P := fun moved : List (CombatActor (Extended K)) ×
          List (NavAgent (Extended K)) => (∀ actor ∈ moved.1, actor.position.isFinite = true) ∧
            ∀ agent ∈ moved.2, agent.IsFinite)
        · exact ⟨hactors, List.forall_mem_cons.mpr ⟨hticked, hagentsLater⟩⟩
        · exact fun _ _ => ⟨List.forall_mem_cons.mpr ⟨hticked.position, hmoved⟩,
            List.forall_mem_cons.mpr ⟨hticked, hwalked⟩⟩

theorem Sound.move (h : Sound config game) : Sound config game.move.1 := by
  obtain ⟨hpoints, hagents⟩ :=
    moveActors_finite (1.0 / Precision.ofUInt32 game.config.tickRate) h.points h.agents
  apply h.replace
  · rfl
  · exact moveActors_identities _ game.actors game.agents
  · exact hagents
  · exact hpoints
  · exact h.healthy.congr (moveActors_vitals _ game.actors game.agents)

theorem Sound.collectLoot (h : Sound config game) : Sound config game.collectLoot.1 := by
  apply h.phase
  · exact Prod.ext (collectLoot_fixtures game) rfl
  · exact collectLoot_reading body_ignoresHarm body_ignoresWeapon game
  · exact collectLoot_healthy h.healthy

theorem Sound.fight (h : Sound config game) (commands : List (MatchCommand (Extended K))) :
    Sound config (game.fight commands).1 := by
  apply h.phase
  · exact fight_fixtures game commands
  · exact fight_reading body_ignoresHarm body_ignoresCooldown game commands
  · exact fight_healthy h.distinct h.healthy commands

theorem Sound.shrinkZone (h : Sound config game) : Sound config game.shrinkZone.1 := by
  apply h.phase
  · rfl
  · exact shrinkZone_reading body_ignoresHarm game
  · exact shrinkZone_healthy h.healthy

theorem Sound.conclude (h : Sound config game) : Sound config game.conclude.1 := by
  apply h.phase
  · exact conclude_fixtures game
  · exact conclude_reading body_ignoresHarm game
  · exact conclude_healthy h.healthy

theorem Sound.recordEvents (h : Sound config game) (tickEvents : List MatchEvent) :
    Sound config (game.recordEvents tickEvents) :=
  h.phase rfl rfl h.healthy

theorem Sound.resolve (h : Sound config game) (commands : List (MatchCommand (Extended K)))
    (tickEvents : List MatchEvent) : Sound config (game.resolve commands tickEvents).1 := by
  have hdirected := h.setDestinations commands
  have hmoved := hdirected.move
  have hcollected := hmoved.collectLoot
  have hfought := hcollected.fight commands
  have hshrunk := hfought.shrinkZone
  have hconcluded := hshrunk.conclude
  unfold OfflineMatch.resolve
  refine attempt_object (P := Sound config) hdirected fun _ _ => ?_
  refine attempt_object (P := Sound config) hmoved fun _ _ => ?_
  refine attempt_object (P := Sound config) hcollected fun _ _ => ?_
  refine attempt_object (P := Sound config) hfought fun _ _ => ?_
  refine attempt_object (P := Sound config) hshrunk fun _ _ => ?_
  refine attempt_object (P := Sound config) hconcluded fun _ _ => ?_
  exact hconcluded.recordEvents _

theorem Sound.started (h : Sound config game) : Sound config game.started := by
  apply h.phase
  · rfl
  · exact started_reading body_ignoresHarm game _
  · exact started_healthy h.healthy

/-- The step lemma. -/
theorem Sound.step (h : Sound config game) : Sound config game.step.1 := by
  cases hcounts : game.countsTick with
  | false =>
    rw [step_uncounted hcounts]
    exact h
  | true =>
    simp only [countsTick, Bool.and_eq_true, bne_iff_ne, ne_eq, beq_iff_eq] at hcounts
    obtain ⟨⟨hactive, hcounted⟩, hpaired⟩ := hcounts
    unfold OfflineMatch.step stepImpl
    rw [if_neg (by simp [hactive]), if_neg hcounted, if_neg (not_not.mpr hpaired)]
    dsimp only
    split
    · exact { h with }
    · exact attempt_object (P := Sound config) h.started fun selection _ =>
        h.started.resolve selection.selected.values _

theorem Sound.call (h : Sound config game) (call : MatchCall (Extended K)) :
    Sound config (game.call call).1 := by
  cases call with
  | submit command =>
    show Sound config (game.submit command).1
    unfold submit
    split
    · exact h
    · exact { h with }
  | submitLifecycle command =>
    show Sound config (game.submitLifecycle command).1
    unfold submitLifecycle
    split
    · exact h
    · exact { h with }
  | step => exact h.step
  | drainEvents => exact { h with }

/-! ## The start -/

theorem spawnActors_healthy {R G : Type} [Precision R] [RandomEngine G] [Trigonometry R]
    {navMesh : NavMesh R} {config : MatchConfig R} {random : G} {state : SpawnState R G}
    (h : spawnActors navMesh config random = .ok state) : AllHealthy state.actors := by
  obtain ⟨contenders, hcontenders, hneutrals⟩ := except_bind_eq_ok.mp h
  obtain ⟨melee, hmelee, hranged⟩ := except_bind_eq_ok.mp hneutrals
  have hpush : ∀ (state : SpawnState R G) (actor : CombatActor R) (archetype : NeutralArchetype)
      (random : G), AllHealthy state.actors → Healthy actor →
        AllHealthy (state.push actor archetype random).actors :=
    fun _ _ _ _ hstate hactor =>
      List.forall_mem_append.mpr ⟨hstate, List.forall_mem_singleton.mpr hactor⟩
  have hempty : AllHealthy ({ random } : SpawnState R G).actors := fun _ hactor => by cases hactor
  have hfirst : AllHealthy contenders.actors := by
    refine foldlM_range_invariant (I := fun _ (state : SpawnState R G) =>
      AllHealthy state.actors) (fun _ before after _ hbefore hspawned => ?_) hempty hcontenders
    obtain ⟨position, random, -, rfl⟩ := spawnContender_spec hspawned
    exact hpush _ _ _ _ hbefore ⟨by simp, by simp, by simp⟩
  have hneutral : ∀ (archetype : NeutralArchetype) (health : Int) (weapon : WeaponType),
      0 < health → health ≤ 100 → ∀ before after : SpawnState R G, AllHealthy before.actors →
        spawnNeutral navMesh config archetype health weapon before = .ok after →
        AllHealthy after.actors := by
    intro archetype health weapon hpositive hle before after hbefore hspawned
    obtain ⟨position, random, -, rfl⟩ := spawnNeutral_spec hspawned
    exact hpush _ _ _ _ hbefore ⟨hpositive.le, hle, iff_of_true rfl hpositive⟩
  have hsecond := repeatM_invariant (hneutral .melee 60 .blade (by decide) (by decide)) hfirst
    hmelee
  exact repeatM_invariant (hneutral .ranged 45 .rifle (by decide) (by decide)) hsecond hranged

theorem onMesh_isFinite {R : Type} [Precision R] {navMesh : NavMesh R} {position : Vec2 R}
    (h : OnMesh navMesh position) : position.isFinite = true := by
  obtain ⟨triangle, htriangle⟩ := h
  simpa using (throwIf_bind_eq_ok.mp htriangle).1

/-- What the checks of a configuration give its bots. -/
structure Checked {R : Type} [Scalar R] (config : MatchConfig R) : Prop where
  tickRate : config.tickRate = 30
  actors : config.actorCount ≤ idCapacity
  loot : config.lootCount ≤ idCapacity
  contenderPerception : isFinitePositive config.contenderPerceptionRadius = true
  neutralPerception : isFinitePositive config.neutralPerceptionRadius = true

theorem checked_of_valid {R : Type} [Scalar R] {config : MatchConfig R}
    (h : validateMatchConfig config = .ok ()) : Checked config := by
  obtain ⟨hrate, h⟩ := throwIf_bind_eq_ok.mp h
  obtain ⟨-, h⟩ := throwIf_bind_eq_ok.mp h
  obtain ⟨-, h⟩ := throwIf_bind_eq_ok.mp h
  obtain ⟨hcapacity, h⟩ := throwIf_bind_eq_ok.mp h
  obtain ⟨hpositive, -⟩ := throwIf_bind_eq_ok.mp h
  simp only [Bool.or_eq_false_iff, decide_eq_false_iff_not, not_lt, Bool.not_eq_false',
    bne_eq_false_iff_eq] at hrate hcapacity hpositive
  exact ⟨hrate.1, hcapacity.1, hcapacity.2, hpositive.1.1.1.1.1.2, hpositive.1.1.1.1.2⟩

theorem Sound.start [IsStrictOrderedRing K] [Trigonometry (Extended K)]
    (h : Sound config game) (hvalid : validateMatchConfig config = .ok ())
    {begun : OfflineMatch (Extended K)} (hbegun : game.start = .ok begun) :
    Sound config begun := by
  have hchecked := checked_of_valid hvalid
  rw [← h.same] at hchecked
  obtain ⟨-, hbegun⟩ := throwIf_bind_eq_ok.mp hbegun
  obtain ⟨spawned, hspawned, hbegun⟩ := except_bind_eq_ok.mp hbegun
  obtain rfl := Except.ok.inj hbegun
  obtain ⟨-, hspawned⟩ := throwIf_bind_eq_ok.mp hspawned
  obtain ⟨state, hstate, hspawned⟩ := except_bind_eq_ok.mp hspawned
  obtain ⟨agents, hagents, hspawned⟩ := except_bind_eq_ok.mp hspawned
  obtain ⟨loot, hloot, hspawned⟩ := except_bind_eq_ok.mp hspawned
  obtain rfl := Except.ok.inj hspawned
  have hpopulated := (spawnActors_populated hstate).1
  have hplaced := spawnActors_placed hstate
  have hcount := spawnActors_length hstate
  obtain ⟨hlaidOut, hlootCount⟩ := spawnAllLoot_laidOut hloot
  exact {
    mesh := h.mesh
    same := h.same
    agents := fun agent hagent => by
      obtain ⟨actor, -, hcreated⟩ := except_mapM_mem hagents hagent
      exact NavAgent.create_isFinite hcreated
    numbered := by
      have hids := numbered_of_populated hpopulated (hcount.trans_le hchecked.actors)
      have hascending := List.pairwise_lt_range (n := state.actors.length)
      rw [← hids, List.pairwise_map] at hascending
      exact hascending.imp UInt32.lt_iff_toNat_lt.mpr
    points := fun actor hactor => onMesh_isFinite (hplaced.onMesh actor hactor)
    healthy := spawnActors_healthy hstate
    archetypes := hplaced.archetypes
    controllers := rfl
    lootPoints := fun item hitem => onMesh_isFinite (hlaidOut.onMesh item hitem)
    lootIds := by
      rw [hlaidOut.numbered]
      exact ofNat_range_nodup (hlootCount.trans_le hchecked.loot) }

/-! ## Reachable states -/

/-- The states that a match comes to.  A start that throws leaves the match as it was. -/
inductive Reached {R : Type} [Precision R] [Trigonometry R] (navMesh : NavMesh R)
    (config : MatchConfig R) : OfflineMatch R → Prop
  | create {game : OfflineMatch R} (hcreated : create navMesh config = .ok game) :
    Reached navMesh config game
  | start {game begun : OfflineMatch R} (h : Reached navMesh config game)
    (hbegun : game.start = .ok begun) : Reached navMesh config begun
  | call {game : OfflineMatch R} (h : Reached navMesh config game) (call : MatchCall R) :
    Reached navMesh config (game.call call).1

theorem Reached.valid {R : Type} [Precision R] [Trigonometry R] {navMesh : NavMesh R}
    {config : MatchConfig R} {game : OfflineMatch R} (h : Reached navMesh config game) :
    validateMatchConfig config = .ok () := by
  induction h with
  | create hcreated => exact create_config hcreated
  | start _ _ ih => exact ih
  | call _ _ ih => exact ih

/-- The run lemma. -/
theorem Reached.sound [IsStrictOrderedRing K] [Trigonometry (Extended K)]
    {navMesh : NavMesh (Extended K)} (hmesh : navMesh.FiniteCenters)
    (h : Reached navMesh config game) : Sound config game := by
  have hvalid := h.valid
  induction h with
  | create hcreated =>
    obtain ⟨-, -, hcreated⟩ := except_bind_eq_ok.mp hcreated
    obtain rfl := Except.ok.inj hcreated
    exact {
      mesh := hmesh
      same := rfl
      agents := nofun
      numbered := ascending_nil
      points := nofun
      healthy := nofun
      archetypes := .nil
      controllers := rfl
      lootPoints := nofun
      lootIds := .nil }
  | start _ hbegun ih => exact ih.start hvalid hbegun
  | call _ call ih => exact ih.call call

end OfflineMatch

end SurvivalArena
