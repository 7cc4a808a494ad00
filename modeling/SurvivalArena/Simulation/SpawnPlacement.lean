import SurvivalArena.Framework.FloatLength
import SurvivalArena.Simulation.SpawnedMatch

/-!
# Where a match begins

A start fills its lists apart and puts them in place at its end, so a start that gives up leaves
nothing behind.  What it puts in place is well formed, whatever numbers were drawn.
-/

namespace SurvivalArena

variable {R G : Type} [Precision R]

/-! ## Accepted positions -/

def OnMesh (navMesh : NavMesh R) (position : Vec2 R) : Prop :=
  ∃ triangle, navMesh.findContainingTriangleGrid position = .ok (some triangle)

/-- The distance is not below a spacing. -/
def KeepsSpacing (spacing : R) (first second : Vec2 R) : Prop :=
  ∃ distance, first.distance second = .ok distance ∧ ¬distance < spacing

theorem isOnNavMesh_eq_true {navMesh : NavMesh R} {position : Vec2 R} :
    isOnNavMesh navMesh position = .ok true ↔ OnMesh navMesh position := by
  unfold isOnNavMesh OnMesh
  rw [except_bind_eq_ok]
  constructor
  · rintro ⟨triangle, htriangle, hsome⟩
    obtain ⟨triangle, rfl⟩ := Option.isSome_iff_exists.mp (Except.ok.inj hsome)
    exact ⟨triangle, htriangle⟩
  · rintro ⟨triangle, htriangle⟩
    exact ⟨some triangle, htriangle, rfl⟩

theorem hasSpacing_spec {actors : List (CombatActor R)} {candidate : Vec2 R} {spacing : R}
    (h : hasSpacing actors candidate spacing = .ok true) :
    ∀ actor ∈ actors, KeepsSpacing spacing actor.position candidate := by
  induction actors with
  | nil => exact nofun
  | cons actor actors ih =>
    obtain ⟨distance, hdistance, h⟩ := except_bind_eq_ok.mp h
    rw [List.forall_mem_cons]
    split at h
    · cases h
    · rename_i hfar
      exact ⟨⟨distance, hdistance, hfar⟩, ih h⟩

theorem isFree_spec {navMesh : NavMesh R} {actors : List (CombatActor R)} {spacing : R}
    {candidate : Vec2 R} (h : isFree navMesh actors spacing candidate = .ok true) :
    OnMesh navMesh candidate ∧
      ∀ actor ∈ actors, KeepsSpacing spacing actor.position candidate := by
  obtain ⟨onMesh, honMesh, h⟩ := except_bind_eq_ok.mp h
  cases onMesh with
  | true => exact ⟨isOnNavMesh_eq_true.mp honMesh, hasSpacing_spec h⟩
  | false => cases h

/-! ## The actors -/

/-- How far an actor is to be from the ones before it. -/
def spawnSpacing (config : MatchConfig R) : ActorRole → R
  | .contender => config.contenderSpawnSpacing
  | .neutral => config.neutralSpawnSpacing

namespace SpawnState

/-- Where the actors spawned so far are, and which of them a controller will have. -/
structure Placed (navMesh : NavMesh R) (config : MatchConfig R) (state : SpawnState R G) :
    Prop where
  onMesh : ∀ actor ∈ state.actors, OnMesh navMesh actor.position
  spaced : state.actors.Pairwise fun earlier later =>
    KeepsSpacing (spawnSpacing config later.role) earlier.position later.position
  archetypes : List.Forall₂ (fun (actor : CombatActor R) archetype =>
    archetype ≠ .none ↔ actor.role = .neutral) state.actors state.archetypes

theorem placed_empty (navMesh : NavMesh R) (config : MatchConfig R) (random : G) :
    Placed navMesh config ({ random } : SpawnState R G) :=
  ⟨nofun, .nil, .nil⟩

theorem Placed.push {navMesh : NavMesh R} {config : MatchConfig R} {state : SpawnState R G}
    (h : state.Placed navMesh config) {actor : CombatActor R} {archetype : NeutralArchetype}
    (hfree : isFree navMesh state.actors (spawnSpacing config actor.role) actor.position =
      .ok true) (harchetype : archetype ≠ .none ↔ actor.role = .neutral) (random : G) :
    (state.push actor archetype random).Placed navMesh config := by
  obtain ⟨hmesh, hspaced⟩ := isFree_spec hfree
  refine ⟨?_, ?_, ?_⟩
  · intro other hother
    obtain hother | hother := List.mem_append.mp hother
    · exact h.onMesh other hother
    · rw [List.mem_singleton.mp hother]
      exact hmesh
  · refine List.pairwise_append.mpr ⟨h.spaced, List.pairwise_singleton _ _, ?_⟩
    intro earlier hearlier later hlater
    rw [List.mem_singleton.mp hlater]
    exact hspaced earlier hearlier
  · exact List.rel_append h.archetypes (.cons harchetype .nil)

end SpawnState

section Sampling

variable [RandomEngine G]

theorem spawnContender_placed [Trigonometry R] {navMesh : NavMesh R} {config : MatchConfig R}
    {state after : SpawnState R G} {index : Nat} (h : state.Placed navMesh config)
    (hspawned : spawnContender navMesh config state index = .ok after) :
    after.Placed navMesh config := by
  obtain ⟨position, random, hfree, rfl⟩ := spawnContender_spec hspawned
  refine h.push ?_ ?_ random
  · exact hfree
  · simp

theorem spawnNeutral_placed {navMesh : NavMesh R} {config : MatchConfig R}
    {archetype : NeutralArchetype} {health : Int} {weapon : WeaponType}
    {state after : SpawnState R G} (hneutral : archetype ≠ .none)
    (h : state.Placed navMesh config)
    (hspawned : spawnNeutral navMesh config archetype health weapon state = .ok after) :
    after.Placed navMesh config := by
  obtain ⟨position, random, hfree, rfl⟩ := spawnNeutral_spec hspawned
  refine h.push ?_ ?_ random
  · exact hfree
  · exact iff_of_true hneutral rfl

theorem spawnActors_placed [Trigonometry R] {navMesh : NavMesh R} {config : MatchConfig R}
    {random : G} {state : SpawnState R G}
    (h : spawnActors navMesh config random = .ok state) : state.Placed navMesh config := by
  obtain ⟨contenders, hcontenders, hneutrals⟩ := except_bind_eq_ok.mp h
  obtain ⟨melee, hmelee, hranged⟩ := except_bind_eq_ok.mp hneutrals
  have hfirst : contenders.Placed navMesh config :=
    foldlM_range_invariant (I := fun _ state => state.Placed navMesh config)
      (fun _ _ _ _ hbefore hspawned => spawnContender_placed hbefore hspawned)
      (SpawnState.placed_empty navMesh config random) hcontenders
  have hsecond : melee.Placed navMesh config :=
    repeatM_invariant (fun _ _ hbefore hspawned =>
      spawnNeutral_placed (by decide) hbefore hspawned) hfirst hmelee
  exact repeatM_invariant (fun _ _ hbefore hspawned =>
    spawnNeutral_placed (by decide) hbefore hspawned) hsecond hranged

omit [Precision R] [RandomEngine G] in
/-- Steps that each add one to a count. -/
theorem repeatM_counts {α : Type} {measure : α → Nat} {step : α → Except Exception α}
    (hstep : ∀ before after, step before = .ok after → measure after = measure before + 1)
    {count : Nat} {before after : α} (h : repeatM step count before = .ok after) :
    measure after = measure before + count := by
  induction count generalizing before with
  | zero => exact congrArg measure (Except.ok.inj h).symm
  | succ count ih =>
    obtain ⟨middle, hmiddle, hrest⟩ := except_bind_eq_ok.mp h
    rw [ih hrest, hstep before middle hmiddle]
    omega

theorem spawnActors_length [Trigonometry R] {navMesh : NavMesh R} {config : MatchConfig R}
    {random : G} {state : SpawnState R G}
    (h : spawnActors navMesh config random = .ok state) :
    state.actors.length = config.actorCount := by
  obtain ⟨contenders, hcontenders, hneutrals⟩ := except_bind_eq_ok.mp h
  obtain ⟨melee, hmelee, hranged⟩ := except_bind_eq_ok.mp hneutrals
  have hfirst : contenders.actors.length = config.contenderCount.toNat := by
    refine foldlM_range_invariant (I := fun index (state : SpawnState R G) =>
      state.actors.length = index) (fun index before after _ hbefore hspawned => ?_) rfl
      hcontenders
    obtain ⟨position, random, -, rfl⟩ := spawnContender_spec hspawned
    rw [SpawnState.length_push, hbefore]
  have hneutral : ∀ (archetype : NeutralArchetype) (health : Int) (weapon : WeaponType)
      (before after : SpawnState R G),
      spawnNeutral navMesh config archetype health weapon before = .ok after →
      after.actors.length = before.actors.length + 1 := by
    intro archetype health weapon before after hspawned
    obtain ⟨position, random, -, rfl⟩ := spawnNeutral_spec hspawned
    exact SpawnState.length_push _ _ _ _
  have hsecond := repeatM_counts (hneutral _ _ _) hmelee
  have hthird := repeatM_counts (hneutral _ _ _) hranged
  unfold MatchConfig.actorCount
  omega

/-! ## The loot -/

/-- The loot spawned so far, numbered in order and on the mesh. -/
structure LaidOut (navMesh : NavMesh R) (loot : List (LootItem R)) : Prop where
  onMesh : ∀ item ∈ loot, OnMesh navMesh item.position
  numbered : loot.map LootItem.id = (List.range loot.length).map UInt32.ofNat

theorem spawnLoot_spec {navMesh : NavMesh R} {config : MatchConfig R} {type : LootType}
    {state after : List (LootItem R) × G}
    (h : spawnLoot navMesh config type state = .ok after) : ∃ position random,
      OnMesh navMesh position ∧
      after = (state.1 ++ [{ id := UInt32.ofNat state.1.length, type, position }], random) := by
  obtain ⟨⟨position, random⟩, hposition, hafter⟩ := except_bind_eq_ok.mp h
  exact ⟨position, random, isOnNavMesh_eq_true.mp (spawnPosition_accepted hposition),
    (Except.ok.inj hafter).symm⟩

theorem spawnLoot_laidOut {navMesh : NavMesh R} {config : MatchConfig R} {type : LootType}
    {state after : List (LootItem R) × G} (h : LaidOut navMesh state.1)
    (hspawned : spawnLoot navMesh config type state = .ok after) : LaidOut navMesh after.1 := by
  obtain ⟨position, random, hmesh, rfl⟩ := spawnLoot_spec hspawned
  refine ⟨?_, ?_⟩
  · intro item hitem
    obtain hitem | hitem := List.mem_append.mp hitem
    · exact h.onMesh item hitem
    · rw [List.mem_singleton.mp hitem]
      exact hmesh
  · rw [List.map_append, h.numbered, List.length_append, List.length_singleton,
      List.range_succ, List.map_append]
    rfl

theorem spawnAllLoot_laidOut {navMesh : NavMesh R} {config : MatchConfig R} {random : G}
    {loot : List (LootItem R)} (h : spawnAllLoot navMesh config random = .ok loot) :
    LaidOut navMesh loot ∧ loot.length = config.lootCount := by
  obtain ⟨rifles, hrifles, h⟩ := except_bind_eq_ok.mp h
  obtain ⟨pulses, hpulses, h⟩ := except_bind_eq_ok.mp h
  obtain ⟨kits, hkits, h⟩ := except_bind_eq_ok.mp h
  obtain rfl := Except.ok.inj h
  have hlaid : ∀ (type : LootType) (before after : List (LootItem R) × G),
      LaidOut navMesh before.1 → spawnLoot navMesh config type before = .ok after →
      LaidOut navMesh after.1 := fun _ _ _ hbefore hspawned =>
    spawnLoot_laidOut hbefore hspawned
  have hcount : ∀ (type : LootType) (before after : List (LootItem R) × G),
      spawnLoot navMesh config type before = .ok after →
      after.1.length = before.1.length + 1 := by
    intro type before after hspawned
    obtain ⟨position, random, -, rfl⟩ := spawnLoot_spec hspawned
    exact List.length_append
  have hempty : LaidOut navMesh ([] : List (LootItem R)) := ⟨nofun, rfl⟩
  have hfirst := repeatM_invariant (hlaid _) hempty hrifles
  have hsecond := repeatM_invariant (hlaid _) hfirst hpulses
  refine ⟨repeatM_invariant (hlaid _) hsecond hkits, ?_⟩
  have hrifleCount := repeatM_counts (hcount _) hrifles
  have hpulseCount := repeatM_counts (hcount _) hpulses
  have hkitCount := repeatM_counts (hcount _) hkits
  rw [List.length_nil] at hrifleCount
  unfold MatchConfig.lootCount
  omega

end Sampling

/-! ## The agents and the controllers -/

theorem spawnAgent_position {navMesh : NavMesh R} {config : MatchConfig R}
    {actor : CombatActor R} {agent : NavAgent R}
    (h : spawnAgent navMesh config actor = .ok agent) : agent.position = actor.position := by
  obtain ⟨-, h⟩ := throwIf_bind_eq_ok.mp h
  obtain ⟨triangle, -, h⟩ := except_bind_eq_ok.mp h
  obtain ⟨-, h⟩ := throwIf_bind_eq_ok.mp h
  obtain rfl := Except.ok.inj h
  rfl

theorem spawnAgents_positions {navMesh : NavMesh R} {config : MatchConfig R}
    {actors : List (CombatActor R)} {agents : List (NavAgent R)}
    (h : actors.mapM (spawnAgent navMesh config) = .ok agents) :
    agents.map NavAgent.position = actors.map CombatActor.position :=
  Aligned.map_eq (fun _ _ hagent => spawnAgent_position hagent) (except_mapM_forall₂ h)

theorem spawnController_isSome (archetype : NeutralArchetype) :
    (spawnController archetype).isSome = decide (archetype ≠ .none) := by
  cases archetype <;> rfl

omit [Precision R] in
theorem spawnControllers_isSome {actors : List (CombatActor R)}
    {archetypes : List NeutralArchetype}
    (h : List.Forall₂ (fun (actor : CombatActor R) archetype =>
      archetype ≠ .none ↔ actor.role = .neutral) actors archetypes) :
    (archetypes.map spawnController).map Option.isSome =
      actors.map fun actor => decide (actor.role = .neutral) := by
  rw [List.map_map]
  refine Aligned.map_eq (fun actor archetype harchetype => ?_) h
  rw [Function.comp_apply, spawnController_isSome]
  exact decide_eq_decide.mpr harchetype

/-! ## Numbers -/

theorem toNat_ofNat_of_lt_capacity {index : Nat} (h : index < idCapacity) :
    (UInt32.ofNat index).toNat = index :=
  UInt32.toNat_ofNat_of_lt' h

theorem ofNat_range_nodup {count : Nat} (h : count ≤ idCapacity) :
    ((List.range count).map UInt32.ofNat).Nodup := by
  refine List.Nodup.map_on (fun first hfirst second hsecond heq => ?_) List.nodup_range
  have hsame := congrArg UInt32.toNat heq
  rw [List.mem_range] at hfirst hsecond
  rwa [toNat_ofNat_of_lt_capacity (hfirst.trans_le h),
    toNat_ofNat_of_lt_capacity (hsecond.trans_le h)] at hsame

/-! ## The start -/

theorem attempt_bind {σ α β γ : Type} (object : σ) (x : Except Exception α)
    (f : α → Except Exception β) (next : β → σ × Except Exception γ) :
    attempt object (x >>= f) next = attempt object x fun a => attempt object (f a) next := by
  cases x <;> rfl

namespace OfflineMatch

section Sampling

variable [RandomEngine G] [Trigonometry R]

/-- The lists are filled apart, and then take the places of the match's own. -/
def spawnInto (game : OfflineMatch R) (random : G) : OfflineMatch R × Except Exception Unit :=
  attempt game (throwIf (!game.actors.isEmpty || !game.neutralArchetypes.isEmpty ||
      !game.agents.isEmpty || !game.neutralControllers.isEmpty || !game.loot.isEmpty)
    (.logicError "offline match spawn state must be empty")) fun _ =>
  attempt game (spawnActors game.navMesh game.config random) fun state =>
  attempt game (state.actors.mapM (spawnAgent game.navMesh game.config)) fun spawnedAgents =>
  attempt game (spawnAllLoot game.navMesh game.config state.random) fun spawnedLoot =>
    let game := { game with actors := state.actors }
    let game := { game with neutralArchetypes := state.archetypes }
    let game := { game with agents := spawnedAgents }
    let game := { game with neutralControllers := state.archetypes.map spawnController }
    let game := { game with loot := spawnedLoot }
    (game, .ok ())

/-- The match after a call of its start, and the call's outcome. -/
def startFrom (game : OfflineMatch R) (random : G) : OfflineMatch R × Except Exception Unit :=
  attempt game (throwIf (game.phase != .waiting)
    (.logicError "offline match can start only once")) fun _ =>
    let spawned := game.spawnInto random
    attempt spawned.1 spawned.2 fun _ => ({ spawned.1 with phase := .running }, .ok ())

theorem spawnInto_eq (game : OfflineMatch R) (random : G) :
    game.spawnInto random =
      attempt game (game.spawnFrom random) fun spawned => (spawned, .ok ()) := by
  unfold spawnInto spawnFrom
  simp only [attempt_bind]
  rfl

/-- With the seeded generator it is the start of the match. -/
theorem startFrom_seed (game : OfflineMatch R) :
    game.startFrom (MersenneTwister.seed game.config.seed) =
      attempt game game.start fun started => (started, .ok ()) := by
  unfold startFrom start
  rw [attempt_bind]
  congr 1
  funext _
  rw [attempt_bind, spawnInto_eq]
  show _ = attempt game (game.spawnFrom (MersenneTwister.seed game.config.seed)) _
  cases game.spawnFrom (MersenneTwister.seed game.config.seed) <;> rfl

/-- A new match spawns nothing, or everything it is to spawn. -/
theorem spawnInto_cases (navMesh : NavMesh R) (config : MatchConfig R) (random : G) :
    (∃ e, spawnInto { navMesh, config } random = ({ navMesh, config }, .error e)) ∨
      ∃ state agents loot, spawnActors navMesh config random = .ok state ∧
        state.actors.mapM (spawnAgent navMesh config) = .ok agents ∧
        spawnAllLoot navMesh config state.random = .ok loot ∧
        spawnInto { navMesh, config } random = ({
          navMesh, config, agents, loot
          actors := state.actors
          neutralArchetypes := state.archetypes
          neutralControllers := state.archetypes.map spawnController }, .ok ()) := by
  unfold spawnInto
  rw [show throwIf _ _ = .ok () from rfl, attempt_ok]
  dsimp only
  cases hstate : spawnActors navMesh config random with
  | error e => exact .inl ⟨e, rfl⟩
  | ok state =>
    rw [attempt_ok]
    cases hagents : state.actors.mapM (spawnAgent navMesh config) with
    | error e => exact .inl ⟨e, rfl⟩
    | ok agents =>
      rw [attempt_ok]
      cases hloot : spawnAllLoot navMesh config state.random with
      | error e => exact .inl ⟨e, rfl⟩
      | ok loot => exact .inr ⟨state, agents, loot, rfl, hagents, hloot, rfl⟩

end Sampling

/-! ## What a start leaves behind -/

/-- Two actors are a spacing apart, or more. -/
def Apart (spacing : Float32) (first second : Vec2 Float32) : Prop :=
  ∃ distance, first.distance second = .ok distance ∧ spacing ≤ distance

theorem apart_of_keepsSpacing {spacing : Float32} {first second : Vec2 Float32}
    (hspacing : spacing.isFinite = true) (h : KeepsSpacing spacing first second) :
    Apart spacing first second := by
  obtain ⟨distance, hdistance, hfar⟩ := h
  refine ⟨distance, hdistance, ?_⟩
  obtain ⟨hfinite, hlength⟩ := throwIf_bind_eq_ok.mp hdistance
  obtain rfl := Except.ok.inj hlength
  rw [Bool.not_eq_false'] at hfinite
  have hlengthFinite : (Scalar.sqrt (second - first).lengthSquared).isFinite = true :=
    Float32.isFinite_length hfinite
  rw [Float32.le_iff hspacing hlengthFinite]
  exact not_lt.mp fun hnear => hfar ((Float32.lt_iff hlengthFinite hspacing).mpr hnear)

/-- A match that runs, with all that it began with. -/
structure Begun (navMesh : NavMesh Float32) (config : MatchConfig Float32)
    (game : OfflineMatch Float32) : Prop where
  phase : game.phase = .running
  numbered : (game.actors.map fun actor => actor.id.toNat) = List.range config.actorCount
  contendersFirst : ∀ (index : Nat) (actor : CombatActor Float32),
    game.actors[index]? = some actor →
    (actor.role = .contender ↔ index < config.contenderCount.toNat)
  agents : game.agents.map NavAgent.position = game.actors.map CombatActor.position
  actorsOnMesh : ∀ actor ∈ game.actors, OnMesh navMesh actor.position
  lootOnMesh : ∀ item ∈ game.loot, OnMesh navMesh item.position
  contendersApart : ∀ (first second : Nat) (earlier later : CombatActor Float32),
    first < second → game.actors[first]? = some earlier → game.actors[second]? = some later →
    earlier.role = .contender → later.role = .contender →
    Apart config.contenderSpawnSpacing earlier.position later.position
  neutralsApart : ∀ (first second : Nat) (earlier later : CombatActor Float32),
    first < second → game.actors[first]? = some earlier → game.actors[second]? = some later →
    later.role = .neutral → Apart config.neutralSpawnSpacing earlier.position later.position
  archetypes : game.neutralArchetypes.map (fun archetype => decide (archetype ≠ .none)) =
    game.actors.map fun actor => decide (actor.role = .neutral)
  controllers : game.neutralControllers.map Option.isSome =
    game.actors.map fun actor => decide (actor.role = .neutral)
  lootIds : (game.loot.map LootItem.id).Nodup

/-- What the checks of a configuration give its start. -/
structure Spawnable (config : MatchConfig Float32) : Prop where
  actors : config.actorCount ≤ idCapacity
  loot : config.lootCount ≤ idCapacity
  contenderSpacing : config.contenderSpawnSpacing.isFinite = true
  neutralSpacing : config.neutralSpawnSpacing.isFinite = true

theorem spawnable_of_valid {config : MatchConfig Float32}
    (h : validateMatchConfig config = .ok ()) : Spawnable config := by
  obtain ⟨-, h⟩ := throwIf_bind_eq_ok.mp h
  obtain ⟨-, h⟩ := throwIf_bind_eq_ok.mp h
  obtain ⟨-, h⟩ := throwIf_bind_eq_ok.mp h
  obtain ⟨hcapacity, h⟩ := throwIf_bind_eq_ok.mp h
  obtain ⟨hfinite, -⟩ := throwIf_bind_eq_ok.mp h
  simp only [Bool.or_eq_false_iff, decide_eq_false_iff_not, not_lt, Bool.not_eq_false',
    isFinitePositive, Bool.and_eq_true] at hcapacity hfinite
  exact ⟨hcapacity.1, hcapacity.2, hfinite.1.1.2.1, hfinite.1.2.1⟩

theorem apart_of_placed {navMesh : NavMesh Float32} {config : MatchConfig Float32}
    (hconfig : Spawnable config) {state : SpawnState Float32 G}
    (h : state.Placed navMesh config) {first second : Nat} {earlier later : CombatActor Float32}
    (hbefore : first < second) (hearlier : state.actors[first]? = some earlier)
    (hlater : state.actors[second]? = some later) :
    Apart (spawnSpacing config later.role) earlier.position later.position := by
  obtain ⟨hfirst, rfl⟩ := List.getElem?_eq_some_iff.mp hearlier
  obtain ⟨hsecond, rfl⟩ := List.getElem?_eq_some_iff.mp hlater
  have hspaced := List.pairwise_iff_getElem.mp h.spaced first second hfirst hsecond hbefore
  refine apart_of_keepsSpacing ?_ hspaced
  cases state.actors[second].role with
  | contender => exact hconfig.contenderSpacing
  | neutral => exact hconfig.neutralSpacing

omit [Precision R] in
theorem numbered_of_populated {state : SpawnState R G} {contenders : Nat}
    (h : state.Populated contenders) (hcapacity : state.actors.length ≤ idCapacity) :
    (state.actors.map fun actor => actor.id.toNat) = List.range state.actors.length := by
  refine List.ext_getElem (by simp) fun index hindex _ => ?_
  rw [List.length_map] at hindex
  rw [List.getElem_map, List.getElem_range,
    (h.numbered index _ (List.getElem?_eq_getElem hindex)).1]
  exact toNat_ofNat_of_lt_capacity (hindex.trans_le hcapacity)

/-- What a start puts in place is well formed. -/
theorem begun_of_spawned [RandomEngine G] [Trigonometry Float32] {navMesh : NavMesh Float32}
    {config : MatchConfig Float32} (hconfig : Spawnable config) {random : G}
    {state : SpawnState Float32 G} {agents : List (NavAgent Float32)}
    {loot : List (LootItem Float32)} (hstate : spawnActors navMesh config random = .ok state)
    (hagents : state.actors.mapM (spawnAgent navMesh config) = .ok agents)
    (hloot : spawnAllLoot navMesh config state.random = .ok loot) :
    Begun navMesh config {
      navMesh, config, agents, loot
      phase := .running
      actors := state.actors
      neutralArchetypes := state.archetypes
      neutralControllers := state.archetypes.map spawnController } := by
  have hpopulated := (spawnActors_populated hstate).1
  have hplaced := spawnActors_placed hstate
  have hcount := spawnActors_length hstate
  obtain ⟨hlaidOut, hlootCount⟩ := spawnAllLoot_laidOut hloot
  exact {
    phase := rfl
    numbered := by
      rw [← hcount]
      exact numbered_of_populated hpopulated (hcount.trans_le hconfig.actors)
    contendersFirst := fun index actor hactor => (hpopulated.numbered index actor hactor).2.1
    agents := spawnAgents_positions hagents
    actorsOnMesh := hplaced.onMesh
    lootOnMesh := hlaidOut.onMesh
    contendersApart := fun first second earlier later hbefore hearlier hlater _ hrole => by
      have hapart := apart_of_placed hconfig hplaced hbefore hearlier hlater
      rw [hrole] at hapart
      exact hapart
    neutralsApart := fun first second earlier later hbefore hearlier hlater hrole => by
      have hapart := apart_of_placed hconfig hplaced hbefore hearlier hlater
      rw [hrole] at hapart
      exact hapart
    archetypes := Aligned.map_eq (fun _ _ h => decide_eq_decide.mpr h) hplaced.archetypes
    controllers := spawnControllers_isSome hplaced.archetypes
    lootIds := by
      rw [hlaidOut.numbered]
      exact ofNat_range_nodup (hlootCount.trans_le hconfig.loot) }

/-- A match that has just been created. -/
structure Unspawned (game : OfflineMatch Float32) : Prop where
  phase : game.phase = .waiting
  actors : game.actors = []
  neutralArchetypes : game.neutralArchetypes = []
  agents : game.agents = []
  neutralControllers : game.neutralControllers = []
  loot : game.loot = []

/-- A start has thrown and left nothing behind, or the match runs with all that it needs. -/
def AllOrNothing (navMesh : NavMesh Float32) (config : MatchConfig Float32)
    (outcome : OfflineMatch Float32 × Except Exception Unit) : Prop :=
  (∃ e, outcome.2 = .error e ∧ Unspawned outcome.1) ∨
    outcome.2 = .ok () ∧ Begun navMesh config outcome.1

/-- A start spawns everything as it is to be, or nothing, whatever source its numbers come
from. -/
theorem startFrom_allOrNothing [RandomEngine G] [Trigonometry Float32]
    {navMesh : NavMesh Float32} {config : MatchConfig Float32} {created : OfflineMatch Float32}
    (hcreated : create navMesh config = .ok created) (random : G) :
    AllOrNothing navMesh config (created.startFrom random) := by
  obtain ⟨_, hvalid, hcreated⟩ := except_bind_eq_ok.mp hcreated
  obtain rfl := Except.ok.inj hcreated
  have hstart : startFrom { navMesh, config } random =
      attempt (spawnInto { navMesh, config } random).1 (spawnInto { navMesh, config } random).2
        fun _ => ({ (spawnInto { navMesh, config } random).1 with phase := .running }, .ok ()) :=
    rfl
  rw [hstart]
  obtain ⟨e, hspawned⟩ | ⟨state, agents, loot, hstate, hagents, hloot, hspawned⟩ :=
    spawnInto_cases navMesh config random
  · left
    rw [hspawned]
    exact ⟨e, rfl, rfl, rfl, rfl, rfl, rfl, rfl⟩
  · right
    rw [hspawned]
    exact ⟨rfl, begun_of_spawned (spawnable_of_valid hvalid) hstate hagents hloot⟩

/-- The square arena in coarse cells. -/
def squareArena : Except Exception (NavMesh Float32) :=
  NavMesh.build [⟨-128, -128⟩, ⟨128, -128⟩, ⟨-128, 128⟩, ⟨128, 128⟩]
    [⟨0, 1, 2⟩, ⟨1, 3, 2⟩] 256

/-- On a square arena, with nothing but zeros drawn. -/
theorem startFrom_allOrNothing_zeros :
    ∃ navMesh created, squareArena = .ok navMesh ∧
      create navMesh defaultMatchConfig = .ok created ∧
      AllOrNothing navMesh defaultMatchConfig
        (@startFrom _ _ _ _ seriesTrigonometry created fun _ : Nat => (0 : UInt32)) := by
  have hbuilt : squareArena.toOption.isSome = true := by decide +kernel
  have hvalid : validateMatchConfig (defaultMatchConfig (R := Float32)) = .ok () := by
    decide +kernel
  have hcreated : create (squareArena.toOption.get hbuilt) defaultMatchConfig =
      .ok { navMesh := squareArena.toOption.get hbuilt, config := defaultMatchConfig } := by
    unfold create
    rw [hvalid]
    rfl
  exact ⟨_, _, except_eq_ok_get hbuilt, hcreated,
    @startFrom_allOrNothing _ _ seriesTrigonometry _ _ _ hcreated fun _ : Nat => 0⟩

end OfflineMatch

end SurvivalArena
