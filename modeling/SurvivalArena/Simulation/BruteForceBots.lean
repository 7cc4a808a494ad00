import SurvivalArena.Simulation.BotPerception
import SurvivalArena.Simulation.SpatialAgreement

/-!
# Bots and brute force

What the bots of a match decide with the spatial index, each of them would decide if it saw all
living actors.
-/

namespace SurvivalArena

open KeyedList

/-! ## The box around the living actors -/

section Bounds

variable {K : Type} [Field K] [LinearOrder K] [FloorRing K] [SquareRoot K]

theorem exists_values {numbers : List (Extended K)}
    (h : ∀ number ∈ numbers, Scalar.isFinite number = true) :
    ∃ values : List K, values.map Extended.finite = numbers := by
  have hrange : numbers ∈ Set.range (List.map (Extended.finite (K := K))) := by
    rw [Set.range_list_map]
    intro number hnumber
    obtain ⟨value, rfl⟩ := Extended.isFinite_iff.mp (h number hnumber)
    exact ⟨value, rfl⟩
  exact hrange

omit [Field K] [LinearOrder K] [FloorRing K] [SquareRoot K] in
/-- A fold over finite numbers bounds them as each of its steps does. -/
theorem foldl_bounds {operation : Extended K → Extended K → Extended K} {step : K → K → K}
    {P : K → K → Prop}
    (hoperation : ∀ a b, operation (.finite a) (.finite b) = .finite (step a b))
    (hleft : ∀ a b, P (step a b) a) (hright : ∀ a b, P (step a b) b)
    (hrefl : ∀ a, P a a) (htrans : ∀ a b c, P a b → P b c → P a c)
    (values : List K) (start : K) :
    ∃ bound, (values.map Extended.finite).foldl operation (.finite start) = .finite bound ∧
      P bound start ∧ ∀ value ∈ values, P bound value := by
  induction values generalizing start with
  | nil => exact ⟨start, rfl, hrefl start, nofun⟩
  | cons value values ih =>
    obtain ⟨bound, hbound, hstep, hlater⟩ := ih (step start value)
    refine ⟨bound, ?_, htrans _ _ _ hstep (hleft start value), ?_⟩
    · rw [List.map_cons, List.foldl_cons, hoperation]
      exact hbound
    · exact List.forall_mem_cons.mpr ⟨htrans _ _ _ hstep (hright start value), hlater⟩

theorem foldl_min_infinity {numbers : List (Extended K)} (hsome : numbers ≠ [])
    (h : ∀ number ∈ numbers, Scalar.isFinite number = true) :
    ∃ least : K, numbers.foldl Scalar.min Precision.infinity = .finite least ∧
      ∀ number ∈ numbers, .finite least ≤ number := by
  obtain ⟨values, rfl⟩ := exists_values h
  cases values with
  | nil => exact absurd rfl hsome
  | cons value values =>
    obtain ⟨least, hleast, hstart, hlater⟩ := foldl_bounds (P := (· ≤ ·))
      (fun _ _ => Extended.min_finite) min_le_left min_le_right le_refl
      (fun _ _ _ => le_trans) values value
    refine ⟨least, hleast, ?_⟩
    rw [List.forall_mem_map]
    exact List.forall_mem_cons.mpr ⟨Extended.finite_le.mpr hstart, fun later hmem =>
      Extended.finite_le.mpr (hlater later hmem)⟩

theorem foldl_max_infinity {numbers : List (Extended K)} (hsome : numbers ≠ [])
    (h : ∀ number ∈ numbers, Scalar.isFinite number = true) :
    ∃ greatest : K, numbers.foldl Scalar.max (-Precision.infinity) = .finite greatest ∧
      ∀ number ∈ numbers, number ≤ .finite greatest := by
  obtain ⟨values, rfl⟩ := exists_values h
  cases values with
  | nil => exact absurd rfl hsome
  | cons value values =>
    obtain ⟨greatest, hgreatest, hstart, hlater⟩ := foldl_bounds (P := (· ≥ ·))
      (fun _ _ => Extended.max_finite) le_max_left le_max_right le_refl
      (fun _ _ _ => ge_trans) values value
    refine ⟨greatest, hgreatest, ?_⟩
    rw [List.forall_mem_map]
    exact List.forall_mem_cons.mpr ⟨Extended.finite_le.mpr hstart, fun later hmem =>
      Extended.finite_le.mpr (hlater later hmem)⟩

namespace OfflineMatch

variable [IsStrictOrderedRing K]

/-- The world is wider than the actors, and holds every one of them. -/
theorem worldBounds_exists {actors : List (CombatActor (Extended K))} (hsome : actors ≠ [])
    (hpoints : ∀ actor ∈ actors, actor.position.isFinite = true) :
    ∃ bounds : Aabb2 (Extended K), worldBounds actors = .ok bounds ∧ bounds.IsValid ∧
      bounds.minimum.x < bounds.maximum.x ∧ bounds.minimum.z < bounds.maximum.z ∧
      ∀ actor ∈ actors, bounds.contains actor.position = true := by
  have hx : ∀ x ∈ actors.map fun actor => actor.position.x, Scalar.isFinite x = true :=
    List.forall_mem_map.mpr fun actor hactor =>
      (Bool.and_eq_true_iff.mp (hpoints actor hactor)).1
  have hz : ∀ z ∈ actors.map fun actor => actor.position.z, Scalar.isFinite z = true :=
    List.forall_mem_map.mpr fun actor hactor =>
      (Bool.and_eq_true_iff.mp (hpoints actor hactor)).2
  have hxs : (actors.map fun actor => actor.position.x) ≠ [] := by simpa using hsome
  have hzs : (actors.map fun actor => actor.position.z) ≠ [] := by simpa using hsome
  obtain ⟨minimumX, hminimumX, hleft⟩ := foldl_min_infinity hxs hx
  obtain ⟨minimumZ, hminimumZ, hbottom⟩ := foldl_min_infinity hzs hz
  obtain ⟨maximumX, hmaximumX, hright⟩ := foldl_max_infinity hxs hx
  obtain ⟨maximumZ, hmaximumZ, htop⟩ := foldl_max_infinity hzs hz
  rw [List.forall_mem_map] at hleft hbottom hright htop
  have hone : (1.0 : Extended K) = .finite 1 := by
    show Extended.finite (1.0 : K) = .finite 1
    norm_num
  -- Any actor shows that the bounds are in order.
  obtain ⟨first, hfirst⟩ := List.exists_mem_of_ne_nil actors hsome
  obtain ⟨x, z, hposition⟩ := Vec2.isFinite_iff.mp (hpoints first hfirst)
  have hacross : minimumX ≤ maximumX := by
    have hlow := hleft first hfirst
    have hhigh := hright first hfirst
    rw [hposition, Extended.finite_le] at hlow hhigh
    exact hlow.trans hhigh
  have hup : minimumZ ≤ maximumZ := by
    have hlow := hbottom first hfirst
    have hhigh := htop first hfirst
    rw [hposition, Extended.finite_le] at hlow hhigh
    exact hlow.trans hhigh
  have hcreated := Aabb2.isValid_finite
    (show minimumX - 1 ≤ maximumX + 1 by linarith) (show minimumZ - 1 ≤ maximumZ + 1 by linarith)
  refine ⟨_, ?_, ⟨_, _, hcreated⟩, ?_, ?_, fun actor hactor => ?_⟩
  · unfold worldBounds
    dsimp only
    rw [hminimumX, hminimumZ, hmaximumX, hmaximumZ, hone]
    exact hcreated
  · exact Extended.finite_lt.mpr (by linarith)
  · exact Extended.finite_lt.mpr (by linarith)
  · obtain ⟨x, z, hposition⟩ := Vec2.isFinite_iff.mp (hpoints actor hactor)
    have hxlow := hleft actor hactor
    have hxhigh := hright actor hactor
    have hzlow := hbottom actor hactor
    have hzhigh := htop actor hactor
    rw [hposition, Extended.finite_le] at hxlow hxhigh hzlow hzhigh
    rw [hposition]
    exact Aabb2.contains_iff.mpr ⟨Vec2.isFinite_finite x z,
      ⟨Extended.finite_le.mpr (by linarith), Extended.finite_le.mpr (by linarith)⟩,
      Extended.finite_le.mpr (by linarith), Extended.finite_le.mpr (by linarith)⟩

/-- What is within a radius lies in the box around the circle. -/
theorem within_intersects {origin place : Vec2 (Extended K)} {radius : Extended K}
    (horigin : origin.isFinite = true) (hplace : place.isFinite = true)
    (hradius : isFinitePositive radius = true) (h : Within origin radius place) :
    Aabb2.intersects ⟨place, place⟩
      ⟨⟨origin.x - radius, origin.z - radius⟩, ⟨origin.x + radius, origin.z + radius⟩⟩ =
        true := by
  obtain ⟨hfinite, hpositive⟩ := Bool.and_eq_true_iff.mp hradius
  obtain ⟨radius, rfl⟩ := Extended.isFinite_iff.mp hfinite
  obtain ⟨x, z, rfl⟩ := Vec2.isFinite_iff.mp horigin
  obtain ⟨x', z', rfl⟩ := Vec2.isFinite_iff.mp hplace
  have hreached : (x - x') * (x - x') + (z - z') * (z - z') ≤ radius * radius :=
    not_lt.mp (Extended.finite_lt.not.mp h)
  have hpositive' : 0 < radius := Extended.finite_lt.mp (of_decide_eq_true hpositive)
  have hside {away : K} (haway : away * away ≤ radius * radius) :
      -radius ≤ away ∧ away ≤ radius := by
    rw [← abs_le, ← abs_of_pos hpositive']
    exact abs_le_iff_mul_self_le.mpr haway
  obtain ⟨hxlow, hxhigh⟩ := hside
    ((le_add_of_nonneg_right (mul_self_nonneg (z - z'))).trans hreached)
  obtain ⟨hzlow, hzhigh⟩ := hside
    ((le_add_of_nonneg_left (mul_self_nonneg (x - x'))).trans hreached)
  simp only [Aabb2.intersects, Bool.and_eq_true, decide_eq_true_eq, Extended.finite_add,
    Extended.finite_sub, Extended.finite_le]
  exact ⟨⟨⟨by linarith, by linarith⟩, by linarith⟩, by linarith⟩

end OfflineMatch

end Bounds

namespace OfflineMatch

/-! ## What the bots are to decide -/

section Decisions

variable {R : Type} [Precision R]

def actorSnapshots (game : OfflineMatch R) : List (ActorSnapshot R) :=
  List.zipWith snapshotActor game.actors game.neutralArchetypes

def livingSnapshots (game : OfflineMatch R) : List (ActorSnapshot R) :=
  game.actorSnapshots.filter ActorSnapshot.alive

/-- The actors that take a turn, with their controllers. -/
def botTurns (game : OfflineMatch R) : List (ActorSnapshot R × Option BehaviorNode) :=
  (game.actorSnapshots.zip game.neutralControllers).filter fun turn => takesTurn turn.1

def perceptionRadius (config : MatchConfig R) (self : ActorSnapshot R) : R :=
  if self.role = .contender then config.contenderPerceptionRadius
  else config.neutralPerceptionRadius

/-- The box that a bot asks the index about. -/
def perceptionArea (config : MatchConfig R) (self : ActorSnapshot R) : Aabb2 R :=
  ⟨⟨self.position.x - perceptionRadius config self, self.position.z - perceptionRadius config self⟩,
    ⟨self.position.x + perceptionRadius config self,
      self.position.z + perceptionRadius config self⟩⟩

/-- What a bot decides that is given some actors and all loot. -/
def decideSeeing (game : OfflineMatch R) (zone : SafeZoneState R)
    (perceived : List (ActorSnapshot R)) (turn : ActorSnapshot R × Option BehaviorNode) :
    Except Exception (MatchCommand R) :=
  let perception : BotPerception R :=
    { actors := perceived, loot := game.loot.map snapshotLoot, safeZone := zone }
  if turn.1.role = .contender then decideContender turn.1 perception game.config
  else
    match turn.2 with
    | none => .error (.logicError "neutral actor has no behavior-tree controller")
    | some controller => decideNeutral turn.1 perception game.config controller

/-- The command has something to do. -/
def asks (command : MatchCommand R) : Bool :=
  command.moveDestination.isSome || command.attackTarget.isSome

omit [Precision R] in
/-- What the index answers, a bot looks up among the snapshots. -/
theorem visibleActors_eq {snapshots visible : List (ActorSnapshot R)}
    (hdistinct : (snapshots.map ActorSnapshot.id).Nodup) (hvisible : visible ⊆ snapshots) :
    (visible.map ActorSnapshot.id).mapM (visibleActor snapshots) = .ok visible := by
  induction visible with
  | nil => rfl
  | cons actor visible ih =>
    obtain ⟨hactor, hlater⟩ := List.cons_subset.mp hvisible
    have hfound : snapshots.find? (fun other => other.id = actor.id) = some actor := by
      cases hfind : snapshots.find? fun other => other.id = actor.id with
      | none =>
        have hnone := List.find?_eq_none.mp hfind actor hactor
        simp at hnone
      | some other =>
        have hid : other.id = actor.id := by simpa using List.find?_some hfind
        rw [List.inj_on_of_nodup_map hdistinct (List.mem_of_find?_eq_some hfind) hactor hid]
    have hsees : visibleActor snapshots actor.id = .ok actor := by
      unfold visibleActor
      rw [hfound]
      rfl
    rw [List.map_cons, List.mapM_cons, hsees, ih hlater]
    rfl

end Decisions

/-! ## Snapshots of a sound match -/

/-- The snapshot is that of the actor, with an archetype of its role. -/
def Shows {R : Type} (actor : CombatActor R) (snapshot : ActorSnapshot R) : Prop :=
  ∃ archetype, (archetype ≠ .none ↔ actor.role = .neutral) ∧
    snapshot = snapshotActor actor archetype

/-- Actors and snapshots that pass a test of what the snapshots show. -/
theorem shows_filter {R : Type} {actors : List (CombatActor R)}
    {snapshots : List (ActorSnapshot R)} (h : List.Forall₂ Shows actors snapshots)
    {p : CombatActor R → Bool} {q : ActorSnapshot R → Bool}
    (htest : ∀ actor archetype, q (snapshotActor actor archetype) = p actor) :
    List.Forall₂ Shows (actors.filter p) (snapshots.filter q) := by
  refine List.rel_filter (fun actor snapshot hshows => ?_) h
  obtain ⟨archetype, -, rfl⟩ := hshows
  show p actor = true ↔ q (snapshotActor actor archetype) = true
  rw [htest]

theorem shows_ids {R : Type} {actors : List (CombatActor R)}
    {snapshots : List (ActorSnapshot R)} (h : List.Forall₂ Shows actors snapshots) :
    snapshots.map ActorSnapshot.id = actors.map CombatActor.id := by
  refine Aligned.map_eq (fun actor snapshot hshows => ?_) h
  obtain ⟨archetype, -, rfl⟩ := hshows
  rfl

section Snapshots

variable {K : Type} [Field K] [LinearOrder K] [FloorRing K] [SquareRoot K]
  {config : MatchConfig (Extended K)} {game : OfflineMatch (Extended K)}

theorem Sound.shows (h : Sound config game) :
    List.Forall₂ Shows game.actors game.actorSnapshots :=
  Aligned.zipWith_left (fun _ archetype hrole => ⟨archetype, hrole, rfl⟩) h.archetypes

theorem Sound.shows_living (h : Sound config game) :
    List.Forall₂ Shows (game.actors.filter CombatActor.alive) game.livingSnapshots :=
  shows_filter h.shows fun _ _ => rfl

theorem Sound.snapshots_distinct (h : Sound config game) :
    (game.actorSnapshots.map ActorSnapshot.id).Nodup := by
  rw [shows_ids h.shows]
  exact h.distinct

theorem Sound.living_distinct (h : Sound config game) :
    (game.livingSnapshots.map ActorSnapshot.id).Nodup :=
  h.snapshots_distinct.sublist (List.filter_sublist.map _)

theorem Sound.snapshot_valid (h : Sound config game) :
    ∀ snapshot ∈ game.actorSnapshots, validateBotActor snapshot = .ok () := by
  intro snapshot hsnapshot
  obtain ⟨actor, hactor, archetype, -, rfl⟩ := Aligned.mem_right h.shows hsnapshot
  obtain ⟨hnonneg, hle, halive⟩ := h.healthy actor hactor
  exact validateBotActor_eq_ok.mpr ⟨h.points actor hactor, hnonneg, hle, halive⟩

theorem Sound.turn (h : Sound config game) {turn : ActorSnapshot (Extended K) × Option BehaviorNode}
    (hturn : turn ∈ game.botTurns) : ∃ actor ∈ game.actors, ∃ archetype,
      (archetype ≠ .none ↔ actor.role = .neutral) ∧
        turn = (snapshotActor actor archetype, spawnController archetype) := by
  have hzip := List.mem_of_mem_filter hturn
  rw [h.controllers] at hzip
  exact Aligned.mem_zip h.archetypes hzip

/-- The turns are those of the living actors but the first contender, in their order. -/
theorem Sound.turn_ids (h : Sound config game) :
    (game.botTurns.map fun turn => turn.1.id) = (game.actors.filter fun actor =>
      actor.alive && !(decide (actor.role = .contender) && decide (actor.id = 0))).map
        CombatActor.id := by
  have hlength : game.actorSnapshots.length ≤ game.neutralControllers.length := by
    rw [h.controllers, List.length_map, ← h.archetypes.length_eq, h.shows.length_eq]
  have hfirsts : game.botTurns.map Prod.fst = game.actorSnapshots.filter takesTurn := by
    have hmapped := List.filter_map (p := takesTurn) (f := Prod.fst)
      (l := game.actorSnapshots.zip game.neutralControllers)
    rw [List.map_fst_zip hlength] at hmapped
    exact hmapped.symm
  have hids := shows_ids (shows_filter h.shows (p := fun actor =>
    actor.alive && !(decide (actor.role = .contender) && decide (actor.id = 0)))
      (q := takesTurn) fun _ _ => rfl)
  rw [← hids, ← hfirsts, List.map_map]
  rfl

theorem Sound.turns_ascending (h : Sound config game) :
    Ascending id (game.botTurns.map fun turn => turn.1.id) := by
  rw [h.turn_ids, ascending_keys]
  exact h.numbered.sublist List.filter_sublist

end Snapshots

/-! ## The index -/

section Agreement

variable {K : Type} [Field K] [LinearOrder K] [FloorRing K] [SquareRoot K]
  [IsStrictOrderedRing K] {config : MatchConfig (Extended K)} {game : OfflineMatch (Extended K)}

/-- The entity of an actor. -/
def pointOf (actor : CombatActor (Extended K)) : SpatialEntity (Extended K) :=
  ⟨actor.id, ⟨actor.position, actor.position⟩⟩

omit [IsStrictOrderedRing K] in
theorem pointEntity_ok {actor : CombatActor (Extended K)}
    (h : actor.position.isFinite = true) : pointEntity actor = .ok (pointOf actor) := by
  obtain ⟨x, z, hposition⟩ := Vec2.isFinite_iff.mp h
  have hcreated := Aabb2.isValid_finite (le_refl x) (le_refl z)
  unfold pointEntity pointOf
  rw [hposition, hcreated]
  rfl

omit [FloorRing K] [SquareRoot K] [IsStrictOrderedRing K] [Field K] [LinearOrder K] in
/-- Entities in the order of their numbers stay as they are. -/
theorem validateAndSortEntities_ascending {R : Type} [Scalar R]
    {entities : List (SpatialEntity R)} (h : Ascending SpatialEntity.id entities)
    (hcount : entities.length < 2 ^ 32) : validateAndSortEntities entities = .ok entities := by
  have hfits : decide (2 ^ 32 - 1 < entities.length) = false := by
    rw [decide_eq_false_iff_not]
    omega
  unfold validateAndSortEntities
  rw [hfits, sortByKey_eq_self h.pairwise_le]
  dsimp only
  rw [h.hasAdjacentDuplicate_eq_false]
  rfl

/-- The living actors that the query of a box finds. -/
def inArea (area : Aabb2 (Extended K)) (snapshot : ActorSnapshot (Extended K)) : Bool :=
  Aabb2.intersects ⟨snapshot.position, snapshot.position⟩ area

/-- The index is built, and its queries find the living actors that meet a box. -/
theorem Sound.index_exists (h : Sound config game)
    (hcount : game.actors.countP CombatActor.alive < 2 ^ 32)
    (hsome : game.actors.filter CombatActor.alive ≠ []) :
    ∃ entities bounds index,
      (game.actors.filter CombatActor.alive).mapM pointEntity = .ok entities ∧
      entities ≠ [] ∧ worldBounds (game.actors.filter CombatActor.alive) = .ok bounds ∧
      looseQuadtree bounds entities {} = .ok index ∧ ∀ area, queryAabb index area =
        (game.livingSnapshots.filter (inArea area)).map ActorSnapshot.id := by
  have hpoints : ∀ actor ∈ game.actors.filter CombatActor.alive,
      actor.position.isFinite = true := fun actor hactor =>
    h.points actor (List.mem_of_mem_filter hactor)
  have hentities := except_mapM_ok fun actor hactor => pointEntity_ok (hpoints actor hactor)
  obtain ⟨bounds, hbounds, hvalid, hx, hz, hholds⟩ := worldBounds_exists hsome hpoints
  have hascending : Ascending SpatialEntity.id
      ((game.actors.filter CombatActor.alive).map pointOf) :=
    ascending_map.mpr (h.numbered.sublist List.filter_sublist)
  have hlinear : LinearSpatialIndex.create
      ((game.actors.filter CombatActor.alive).map pointOf) =
        .ok ⟨(game.actors.filter CombatActor.alive).map pointOf⟩ := by
    unfold LinearSpatialIndex.create
    rw [validateAndSortEntities_ascending hascending]
    · rfl
    · rwa [List.length_map, ← List.countP_eq_length_filter]
  obtain ⟨hreturns, hagrees⟩ := looseQuadtree_agrees hvalid _ {}
  obtain ⟨index, hindex⟩ := hreturns.mpr ⟨⟨_, hlinear⟩,
    ⟨⟨1.5, rfl, by norm_num⟩, by simp, by simp⟩, hx, hz, List.forall_mem_map.mpr
      fun actor hactor => Aabb2.containsBox_iff.mpr ⟨hholds actor hactor, hholds actor hactor⟩⟩
  refine ⟨_, bounds, index, hentities, by simpa using hsome, hbounds, hindex, fun area => ?_⟩
  obtain ⟨same, hsame, -, hquery, -⟩ := hagrees index hindex
  obtain rfl := Except.ok.inj (hlinear.symm.trans hsame)
  rw [(hquery area).1, LinearSpatialIndex.queryAabb, List.filter_map, List.map_map]
  exact (shows_ids (shows_filter h.shows_living fun _ _ => rfl)).symm

/-! ## The decisions -/

omit [IsStrictOrderedRing K] in
theorem Sound.perception_valid (h : Sound config game) {zone : SafeZoneState (Extended K)}
    (hzone : zone.IsValid) {self : ActorSnapshot (Extended K)}
    (hself : self ∈ game.actorSnapshots) {perceived : List (ActorSnapshot (Extended K))}
    {radius : Extended K} {origin : Vec2 (Extended K)}
    (hperceived : Perceives origin radius game.livingSnapshots perceived) :
    validatePerception self
      { actors := perceived, loot := game.loot.map snapshotLoot, safeZone := zone } =
        .ok () := by
  apply validatePerception_ok
  · exact h.snapshot_valid self hself
  · refine validatePerceivedActors_ok (fun actor hactor => ?_) hperceived.distinct
      fun _ _ => List.not_mem_nil
    exact h.snapshot_valid actor (List.mem_of_mem_filter (hperceived.among hactor))
  · refine validatePerceivedLoot_ok ?_ ?_ fun _ _ => List.not_mem_nil
    · exact List.forall_mem_map.mpr h.lootPoints
    · rw [List.map_map]
      exact h.lootIds
  · exact hzone

/-- A bot decides the same whatever it sees, as long as it sees all that is near. -/
theorem Sound.decides [PositiveRoot K] (h : Sound config game)
    (hvalid : validateMatchConfig config = .ok ()) {zone : SafeZoneState (Extended K)}
    (hzone : zone.IsValid) {turn : ActorSnapshot (Extended K) × Option BehaviorNode}
    (hturn : turn ∈ game.botTurns) :
    ∃ decision, decision.actor = turn.1.id ∧
      ∀ perceived, Perceives turn.1.position (perceptionRadius config turn.1)
        game.livingSnapshots perceived →
          game.decideSeeing zone perceived turn = .ok decision := by
  have hself : turn.1 ∈ game.actorSnapshots :=
    (List.of_mem_zip (List.mem_of_mem_filter hturn)).1
  obtain ⟨actor, -, archetype, hrole, rfl⟩ := h.turn hturn
  have hall := Perceives.self (snapshotActor actor archetype).position
    (perceptionRadius config (snapshotActor actor archetype)) h.living_distinct
  have hseen := h.perception_valid hzone hself hall
  unfold OfflineMatch.decideSeeing
  rw [h.same]
  dsimp only at hself hseen ⊢
  by_cases hcontender : (snapshotActor actor archetype).role = .contender
  · obtain ⟨decision, hdecision, hactor⟩ := decideContender_exists hvalid hseen hcontender
    refine ⟨decision, hactor, fun perceived hperceived => ?_⟩
    have hother := h.perception_valid hzone hself hperceived
    have hradius : perceptionRadius config (snapshotActor actor archetype) =
        config.contenderPerceptionRadius := if_pos hcontender
    rw [hradius] at hperceived
    rw [if_pos hcontender, ← hdecision]
    exact decideContender_congr hseen hother rfl rfl
      (hperceived.closestActor h.living_distinct)
  · have hneutral : actor.role = .neutral := by
      cases hactor : actor.role with
      | contender => exact absurd hactor hcontender
      | neutral => rfl
    obtain ⟨kind, hkind⟩ : ∃ kind, spawnController archetype =
        some (behaviorTreeAiController kind) := by
      cases archetype with
      | none => exact absurd rfl (hrole.mpr hneutral)
      | melee => exact ⟨.melee, rfl⟩
      | ranged => exact ⟨.ranged, rfl⟩
    obtain ⟨decision, hdecision, hactor⟩ := decideNeutral_exists kind hvalid hseen hneutral
      (hrole.mpr hneutral)
    refine ⟨decision, hactor, fun perceived hperceived => ?_⟩
    have hother := h.perception_valid hzone hself hperceived
    have hradius : perceptionRadius config (snapshotActor actor archetype) =
        config.neutralPerceptionRadius := if_neg hcontender
    rw [hradius] at hperceived
    rw [if_neg hcontender, hkind, ← hdecision]
    exact decideNeutral_congr hseen hother (hperceived.closestActor h.living_distinct)

theorem perceptionRadius_positive {R : Type} [Precision R] {config : MatchConfig R}
    (hvalid : validateMatchConfig config = .ok ()) (self : ActorSnapshot R) :
    isFinitePositive (perceptionRadius config self) = true := by
  have hchecked := checked_of_valid hvalid
  unfold perceptionRadius
  split
  · exact hchecked.contenderPerception
  · exact hchecked.neutralPerception

theorem perceptionArea_created {self : ActorSnapshot (Extended K)}
    (hvalid : validateMatchConfig config = .ok ()) (hself : self.position.isFinite = true) :
    Aabb2.create (perceptionArea config self).minimum (perceptionArea config self).maximum =
      .ok (perceptionArea config self) := by
  obtain ⟨hfinite, hpositive⟩ :=
    Bool.and_eq_true_iff.mp (perceptionRadius_positive hvalid self)
  obtain ⟨radius, hradius⟩ := Extended.isFinite_iff.mp hfinite
  obtain ⟨x, z, hposition⟩ := Vec2.isFinite_iff.mp hself
  rw [hradius] at hpositive
  have hordered : 0 < radius := Extended.finite_lt.mp (of_decide_eq_true hpositive)
  unfold perceptionArea
  rw [hposition, hradius]
  exact Aabb2.isValid_finite (by linarith) (by linarith)

/-- The query finds all that is near. -/
theorem Sound.perceives (h : Sound config game)
    (hvalid : validateMatchConfig config = .ok ()) {self : ActorSnapshot (Extended K)}
    (hself : self.position.isFinite = true) :
    Perceives self.position (perceptionRadius config self) game.livingSnapshots
      (game.livingSnapshots.filter (inArea (perceptionArea config self))) where
  distinct := h.living_distinct.sublist (List.filter_sublist.map _)
  among := fun _ hactor => List.mem_of_mem_filter hactor
  complete := fun actor hactor hwithin => by
    have hpoint := (validateBotActor_eq_ok.mp
      (h.snapshot_valid actor (List.mem_of_mem_filter hactor))).1
    exact List.mem_filter.mpr ⟨hactor, within_intersects hself hpoint
      (perceptionRadius_positive hvalid self) hwithin⟩

/-- What one bot decides with the index. -/
theorem Sound.decideBot_eq (h : Sound config game)
    (hvalid : validateMatchConfig config = .ok ()) {index : QuadtreeNode (Extended K)}
    (hquery : ∀ area, queryAabb index area =
      (game.livingSnapshots.filter (inArea area)).map ActorSnapshot.id)
    (zone : SafeZoneState (Extended K)) {turn : ActorSnapshot (Extended K) × Option BehaviorNode}
    (hself : turn.1.position.isFinite = true) :
    game.decideBot index zone game.actorSnapshots turn.1 turn.2 =
      game.decideSeeing zone
        (game.livingSnapshots.filter (inArea (perceptionArea config turn.1))) turn := by
  have hamong : game.livingSnapshots.filter (inArea (perceptionArea config turn.1)) ⊆
      game.actorSnapshots := fun _ hactor =>
    List.mem_of_mem_filter (List.mem_of_mem_filter hactor)
  have hvisible := visibleActors_eq h.snapshots_distinct hamong
  rw [← hquery] at hvisible
  have hcreated := perceptionArea_created hvalid hself
  rw [← h.same] at hvisible hcreated ⊢
  unfold decideBot
  change (Aabb2.create (perceptionArea game.config turn.1).minimum
    (perceptionArea game.config turn.1).maximum >>= _) = _
  rw [hcreated]
  change ((queryAabb index (perceptionArea game.config turn.1)).mapM
    (visibleActor game.actorSnapshots) >>= _) = _
  rw [hvisible]
  rfl

/-- What brute force makes of the bots' turns: each decides what it would decide if it saw all
living actors, or any of them that include those within its radius, in whatever order. -/
structure BruteForce (config : MatchConfig (Extended K)) (game : OfflineMatch (Extended K))
    (zone : SafeZoneState (Extended K)) (decisions : List (MatchCommand (Extended K))) :
    Prop where
  evaluated : evaluateSafeZone game.tick config.tickRate = .ok zone
  turns : (game.botTurns.map fun turn => turn.1.id) = (game.actors.filter fun actor =>
    actor.alive && !(decide (actor.role = .contender) && decide (actor.id = 0))).map
      CombatActor.id
  ascending : Ascending id (game.botTurns.map fun turn => turn.1.id)
  decided : List.Forall₂ (fun turn (decision : MatchCommand (Extended K)) =>
    decision.actor = turn.1.id ∧
      game.decideSeeing zone game.livingSnapshots turn = .ok decision ∧
      ∀ perceived, Perceives turn.1.position (perceptionRadius config turn.1)
        game.livingSnapshots perceived →
          game.decideSeeing zone perceived turn = .ok decision) game.botTurns decisions

theorem Sound.bruteForce [PositiveRoot K] (h : Sound config game)
    (hvalid : validateMatchConfig config = .ok ()) :
    ∃ zone decisions, BruteForce config game zone decisions := by
  have hrate : config.tickRate ≠ 0 := by
    rw [(checked_of_valid hvalid).tickRate]
    decide
  obtain ⟨zone, hzone, hzoneValid⟩ : ∃ zone : SafeZoneState (Extended K),
      evaluateSafeZone game.tick config.tickRate = .ok zone ∧ zone.IsValid :=
    evaluateSafeZone_valid game.tick hrate
  have hall (turn : ActorSnapshot (Extended K) × Option BehaviorNode) :=
    Perceives.self turn.1.position (perceptionRadius config turn.1) h.living_distinct
  have hexists : ∀ turn ∈ game.botTurns, ∃ decision,
      game.decideSeeing zone game.livingSnapshots turn = .ok decision := by
    intro turn hturn
    obtain ⟨decision, -, hdecides⟩ := h.decides hvalid hzoneValid hturn
    exact ⟨decision, hdecides _ (hall turn)⟩
  obtain ⟨decisions, hdecisions⟩ := except_mapM_exists hexists
  refine ⟨zone, decisions, hzone, h.turn_ids, h.turns_ascending, ?_⟩
  refine Aligned.imp_mem (except_mapM_forall₂ hdecisions) fun turn hturn decision hdecision => ?_
  obtain ⟨same, hactor, hdecides⟩ := h.decides hvalid hzoneValid hturn
  obtain rfl := Except.ok.inj ((hdecides _ (hall turn)).symm.trans hdecision)
  exact ⟨hactor, hdecision, hdecides⟩

/-- The bots' commands are the decisions that ask for something. -/
theorem Sound.commands_eq (h : Sound config game)
    (hvalid : validateMatchConfig config = .ok ())
    (hcount : game.actors.countP CombatActor.alive < 2 ^ 32) {zone : SafeZoneState (Extended K)}
    {decisions : List (MatchCommand (Extended K))}
    (hforce : BruteForce config game zone decisions) :
    game.buildInternalBotCommands = .ok (decisions.filter asks) := by
  have hmetadata : (game.actors.length != game.neutralArchetypes.length ||
      game.actors.length != game.neutralControllers.length) = false := by
    rw [h.controllers, List.length_map, ← h.archetypes.length_eq, bne_self_eq_false]
    rfl
  unfold buildInternalBotCommands
  rw [hmetadata]
  by_cases hsome : game.actors.filter CombatActor.alive = []
  · have hids : game.botTurns.map (fun turn => turn.1.id) = [] := by
      rw [hforce.turns, List.map_eq_nil_iff, List.filter_eq_nil_iff]
      intro actor hactor hturn
      refine List.not_mem_nil (hsome ▸ List.mem_filter.mpr ⟨hactor, ?_⟩)
      exact (Bool.and_eq_true_iff.mp hturn).1
    have hnone := hforce.decided
    rw [List.map_eq_nil_iff.mp hids, List.forall₂_nil_left_iff] at hnone
    rw [hsome, hnone]
    rfl
  · obtain ⟨entities, bounds, index, hentities, hne, hbounds, hindex, hquery⟩ :=
      h.index_exists hcount hsome
    have hturns : game.botTurns.mapM (fun turn =>
        game.decideBot index zone game.actorSnapshots turn.1 turn.2) = .ok decisions := by
      refine except_mapM_of_forall₂ (Aligned.imp_mem hforce.decided
        fun turn hturn decision hdecided => ?_)
      have hself := (validateBotActor_eq_ok.mp (h.snapshot_valid _
        (List.of_mem_zip (List.mem_of_mem_filter hturn)).1)).1
      rw [h.decideBot_eq hvalid hquery zone hself]
      exact hdecided.2.2 _ (h.perceives hvalid hself)
    have hzone := hforce.evaluated
    rw [← h.same] at hzone
    refine except_bind_eq_ok.mpr ⟨(), rfl, except_bind_eq_ok.mpr ⟨entities, hentities, ?_⟩⟩
    rw [if_neg (by simpa using hne)]
    exact except_bind_eq_ok.mpr ⟨bounds, hbounds, except_bind_eq_ok.mpr ⟨index, hindex,
      except_bind_eq_ok.mpr ⟨zone, hzone, except_bind_eq_ok.mpr ⟨decisions, hturns, rfl⟩⟩⟩⟩

/-- In every state a match comes to, the bots' commands are what brute force would command,
without the decisions to do nothing.  The spatial index takes fewer than 2 ^ 32 entities. -/
theorem buildInternalBotCommands_bruteForce [PositiveRoot K] [Trigonometry (Extended K)]
    {vertices : List (Vec2 (Extended K))} {triangles : List NavTriangleIndices}
    {gridCellSize : Extended K} {navMesh : NavMesh (Extended K)}
    (hbuilt : NavMesh.build vertices triangles gridCellSize = .ok navMesh)
    (hreached : Reached navMesh config game)
    (hcount : game.actors.countP CombatActor.alive < 2 ^ 32) :
    ∃ zone decisions, BruteForce config game zone decisions ∧
      game.buildInternalBotCommands = .ok (decisions.filter asks) := by
  have hvalid := hreached.valid
  have hsound := hreached.sound (NavMesh.build_finiteCenters hbuilt)
  obtain ⟨zone, decisions, hforce⟩ := hsound.bruteForce hvalid
  exact ⟨zone, decisions, hforce, hsound.commands_eq hvalid hcount hforce⟩

end Agreement

/-! ## Two contenders at rest -/

section ExactDuel

/-- A cosine that sets two contenders opposite each other. -/
abbrev facing : Trigonometry (Extended ℚ) where
  cos angle := if angle < .finite 1 then .finite 1 else .finite (-1)
  sin _ := .finite 0

/-- Two contenders alone, without loot. -/
def exactDuel : MatchConfig (Extended ℚ) := {
  contenderCount := 2
  meleeNeutralCount := 0
  rangedNeutralCount := 0
  rifleLootCount := 0
  arcPulseLootCount := 0
  medKitLootCount := 0 }

/-- The square arena in one cell. -/
def exactArena : Except Exception (NavMesh (Extended ℚ)) :=
  NavMesh.build [⟨.finite (-128), .finite (-128)⟩, ⟨.finite 128, .finite (-128)⟩,
    ⟨.finite (-128), .finite 128⟩, ⟨.finite 128, .finite 128⟩] [⟨0, 1, 2⟩, ⟨1, 3, 2⟩] (.finite 256)

def exactMatch : Except Exception (OfflineMatch (Extended ℚ)) := do
  let navMesh ← exactArena
  let game ← create navMesh exactDuel
  @start _ _ facing game

theorem exactMatch_reached {game : OfflineMatch (Extended ℚ)} (h : exactMatch = .ok game) :
    ∃ navMesh, exactArena = .ok navMesh ∧ @Reached _ _ facing navMesh exactDuel game := by
  obtain ⟨navMesh, hmesh, h⟩ := except_bind_eq_ok.mp h
  obtain ⟨created, hcreated, hstarted⟩ := except_bind_eq_ok.mp h
  exact ⟨navMesh, hmesh, @Reached.start _ _ facing _ _ _ _
    (@Reached.create _ _ facing _ _ _ hcreated) hstarted⟩

/-- The second contender decides to do nothing, and no command says so. -/
theorem exactMatch_idles :
    ∃ navMesh game zone, exactArena = .ok navMesh ∧
      @Reached _ _ facing navMesh exactDuel game ∧
      evaluateSafeZone game.tick exactDuel.tickRate = .ok zone ∧
      (∃ turn ∈ game.botTurns, ∃ decision,
        game.decideSeeing zone game.livingSnapshots turn = .ok decision) ∧
      game.buildInternalBotCommands = .ok [] := by
  have hrun : exactMatch.toOption.any (fun game =>
      game.buildInternalBotCommands.toOption.any List.isEmpty &&
        (evaluateSafeZone game.tick exactDuel.tickRate).toOption.any fun zone =>
          game.botTurns.any fun turn =>
            (game.decideSeeing zone game.livingSnapshots turn).toOption.any fun _ => true) =
      true := by
    decide +kernel
  obtain ⟨game, hgame, htest⟩ := except_any hrun
  obtain ⟨hcommands, hzone⟩ := Bool.and_eq_true_iff.mp htest
  obtain ⟨commands, hcommands, hempty⟩ := except_any hcommands
  obtain ⟨zone, hzone, hturns⟩ := except_any hzone
  obtain ⟨turn, hturn, hdecides⟩ := List.any_eq_true.mp hturns
  obtain ⟨decision, hdecision, -⟩ := except_any hdecides
  obtain ⟨navMesh, hmesh, hreached⟩ := exactMatch_reached hgame
  refine ⟨navMesh, game, zone, hmesh, hreached, hzone, ⟨turn, hturn, decision, hdecision⟩, ?_⟩
  rw [hcommands, List.isEmpty_iff.mp hempty]

/-- The rule for two contenders at rest. -/
theorem buildInternalBotCommands_bruteForce_exactMatch :
    ∃ game, exactMatch = .ok game ∧ ∃ zone decisions,
      BruteForce exactDuel game zone decisions ∧
        game.buildInternalBotCommands = .ok (decisions.filter asks) := by
  have hrun : exactMatch.toOption.any (fun game =>
      decide (game.actors.countP CombatActor.alive < 2 ^ 32)) = true := by
    decide +kernel
  obtain ⟨game, hgame, hcount⟩ := except_any hrun
  obtain ⟨navMesh, hmesh, hreached⟩ := exactMatch_reached hgame
  let _ := facing
  exact ⟨game, hgame, buildInternalBotCommands_bruteForce hmesh hreached (of_decide_eq_true hcount)⟩

end ExactDuel

end OfflineMatch

end SurvivalArena
