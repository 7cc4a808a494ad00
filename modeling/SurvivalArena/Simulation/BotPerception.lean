import SurvivalArena.Simulation.SoundMatch

/-!
# What a bot perceives

Over exact numbers the nearest candidate within a radius depends on the candidates within it
only, and not on their order.  A bot whose world is in order always decides.
-/

namespace SurvivalArena

variable {K : Type} [Field K] [LinearOrder K] [FloorRing K] [SquareRoot K]

/-! ## The nearest candidate -/

/-- The place is not further away than the radius. -/
def Within (origin : Vec2 (Extended K)) (radius : Extended K) (place : Vec2 (Extended K)) : Prop :=
  ¬squareDouble radius < distanceSquaredDouble origin place

/-- How a candidate ranks: nearer ones first, then those with the lower number. -/
def closestRank {α : Type} (key : α → UInt32) (position : α → Vec2 (Extended K))
    (origin : Vec2 (Extended K)) (candidate : α) : WithBot (WithTop K) ×ₗ UInt32 :=
  toLex (Extended.rank (distanceSquaredDouble origin (position candidate)), key candidate)

theorem closestRank_lt {α : Type} {key : α → UInt32} {position : α → Vec2 (Extended K)}
    {origin : Vec2 (Extended K)} (left right : α) :
    (decide (distanceSquaredDouble origin (position left) <
          distanceSquaredDouble origin (position right)) ||
        Scalar.equal (distanceSquaredDouble origin (position left))
          (distanceSquaredDouble origin (position right)) && decide (key left < key right)) =
        true ↔
      closestRank key position origin left < closestRank key position origin right := by
  rw [Bool.or_eq_true, Bool.and_eq_true, decide_eq_true_iff, decide_eq_true_iff, closestRank,
    closestRank, Prod.Lex.toLex_lt_toLex]
  exact or_congr Extended.lt_iff_rank
    (and_congr_left fun _ => Extended.equal_iff.trans Extended.rank_inj.symm)

/-- Candidates that agree within the radius have the same nearest one. -/
theorem closest_congr {α : Type} {key : α → UInt32} {position : α → Vec2 (Extended K)}
    {origin : Vec2 (Extended K)} {radius : Extended K} {candidates others : List α}
    (hcandidates : (candidates.map key).Nodup) (hothers : (others.map key).Nodup)
    (hsame : ∀ candidate, Within origin radius (position candidate) →
      (candidate ∈ candidates ↔ candidate ∈ others)) :
    closest key position origin radius candidates = closest key position origin radius others := by
  have hperm : (candidates.filter fun candidate =>
      !decide (squareDouble radius < distanceSquaredDouble origin (position candidate))).Perm
        (others.filter fun candidate =>
          !decide (squareDouble radius < distanceSquaredDouble origin (position candidate))) := by
    apply (List.perm_ext_iff_of_nodup (hcandidates.of_map.filter _) (hothers.of_map.filter _)).mpr
    intro candidate
    rw [List.mem_filter, List.mem_filter]
    refine and_congr_left fun hwithin => hsame candidate ?_
    simpa [Within] using hwithin
  apply minElement_perm closestRank_lt hperm
  intro first hfirst second hsecond hrank
  have hkey : key first = key second := congrArg (fun rank => (ofLex rank).2) hrank
  exact List.inj_on_of_nodup_map hcandidates (List.mem_of_mem_filter hfirst)
    (List.mem_of_mem_filter hsecond) hkey

/-- The perceived actors are living ones, each once, and all of them that are within the
radius. -/
structure Perceives (origin : Vec2 (Extended K)) (radius : Extended K)
    (living perceived : List (ActorSnapshot (Extended K))) : Prop where
  distinct : (perceived.map ActorSnapshot.id).Nodup
  among : perceived ⊆ living
  complete : ∀ actor ∈ living, Within origin radius actor.position → actor ∈ perceived

theorem Perceives.closestActor {self : ActorSnapshot (Extended K)} {radius : Extended K}
    {living perceived : List (ActorSnapshot (Extended K))}
    (h : Perceives self.position radius living perceived)
    (hliving : (living.map ActorSnapshot.id).Nodup)
    (predicate : ActorSnapshot (Extended K) → Bool) :
    SurvivalArena.closestActor self perceived radius predicate =
      SurvivalArena.closestActor self living radius predicate := by
  apply closest_congr
  · exact h.distinct.sublist (List.filter_sublist.map _)
  · exact hliving.sublist (List.filter_sublist.map _)
  · intro actor hwithin
    rw [List.mem_filter, List.mem_filter]
    exact and_congr_left fun _ => ⟨fun hseen => h.among hseen, fun hlives =>
      h.complete actor hlives hwithin⟩

theorem Perceives.self (origin : Vec2 (Extended K)) (radius : Extended K)
    {living : List (ActorSnapshot (Extended K))}
    (hliving : (living.map ActorSnapshot.id).Nodup) : Perceives origin radius living living :=
  ⟨hliving, List.Subset.refl living, fun _ hactor _ => hactor⟩

/-! ## What the checks accept -/

theorem validateBotActor_eq_ok {R : Type} [Precision R] {actor : ActorSnapshot R} :
    validateBotActor actor = .ok () ↔ actor.position.isFinite = true ∧ 0 ≤ actor.health ∧
      actor.health ≤ 100 ∧ (actor.alive = true ↔ 0 < actor.health) := by
  rw [validateBotActor, throwIf_eq_ok]
  simp only [Bool.or_eq_false_iff, Bool.not_eq_false', decide_eq_false_iff_not, not_lt,
    bne_eq_false_iff_eq, and_assoc]
  refine and_congr_right fun _ => and_congr_right fun _ => and_congr_right fun _ => ?_
  rw [Bool.eq_iff_iff, decide_eq_true_iff]

theorem validatePerceivedActors_ok {R : Type} [Precision R] {ids : List ActorId}
    {actors : List (ActorSnapshot R)}
    (hvalid : ∀ actor ∈ actors, validateBotActor actor = .ok ())
    (hdistinct : (actors.map ActorSnapshot.id).Nodup) (hnew : ∀ actor ∈ actors, actor.id ∉ ids) :
    validatePerceivedActors ids actors = .ok () := by
  induction actors generalizing ids with
  | nil => rfl
  | cons actor actors ih =>
    obtain ⟨hactor, hlater⟩ := List.forall_mem_cons.mp hvalid
    obtain ⟨hfresh, hrest⟩ := List.nodup_cons.mp hdistinct
    obtain ⟨hown, hothers⟩ := List.forall_mem_cons.mp hnew
    have hunique : decide (actor.id ∈ ids) = false := decide_eq_false hown
    rw [validatePerceivedActors, hactor, hunique]
    apply ih hlater hrest
    intro other hother
    rw [List.mem_cons, not_or]
    refine ⟨fun hsame => hfresh ?_, hothers other hother⟩
    rw [← hsame]
    exact List.mem_map_of_mem hother

theorem validatePerceivedActors_mem {R : Type} [Precision R] {ids : List ActorId}
    {actors : List (ActorSnapshot R)} (h : validatePerceivedActors ids actors = .ok ()) :
    ∀ actor ∈ actors, validateBotActor actor = .ok () := by
  induction actors generalizing ids with
  | nil => exact nofun
  | cons actor actors ih =>
    obtain ⟨⟨⟩, hactor, h⟩ := except_bind_eq_ok.mp h
    obtain ⟨⟨⟩, -, h⟩ := except_bind_eq_ok.mp h
    exact List.forall_mem_cons.mpr ⟨hactor, ih h⟩

theorem validatePerceivedLoot_ok {R : Type} [Precision R] {ids : List LootId}
    {loot : List (LootSnapshot R)} (hpoints : ∀ item ∈ loot, item.position.isFinite = true)
    (hdistinct : (loot.map LootSnapshot.id).Nodup) (hnew : ∀ item ∈ loot, item.id ∉ ids) :
    validatePerceivedLoot ids loot = .ok () := by
  induction loot generalizing ids with
  | nil => rfl
  | cons item loot ih =>
    obtain ⟨hitem, hlater⟩ := List.forall_mem_cons.mp hpoints
    obtain ⟨hfresh, hrest⟩ := List.nodup_cons.mp hdistinct
    obtain ⟨hown, hothers⟩ := List.forall_mem_cons.mp hnew
    have hunique : decide (item.id ∈ ids) = false := decide_eq_false hown
    rw [validatePerceivedLoot, hitem, hunique]
    apply ih hlater hrest
    intro other hother
    rw [List.mem_cons, not_or]
    refine ⟨fun hsame => hfresh ?_, hothers other hother⟩
    rw [← hsame]
    exact List.mem_map_of_mem hother

/-! ## Decisions -/

theorem validatePerception_ok {self : ActorSnapshot (Extended K)}
    {perception : BotPerception (Extended K)} (hself : validateBotActor self = .ok ())
    (hactors : validatePerceivedActors [] perception.actors = .ok ())
    (hloot : validatePerceivedLoot [] perception.loot = .ok ())
    (hzone : perception.safeZone.IsValid) : validatePerception self perception = .ok () := by
  obtain ⟨outside, houtside⟩ := isOutsideSafeZone_exists
    (validateBotActor_eq_ok.mp hself).1 hzone
  unfold validatePerception
  rw [hself, hactors, hloot, houtside]
  rfl

theorem decideContender_congr {self : ActorSnapshot (Extended K)}
    {perception other : BotPerception (Extended K)} {config : MatchConfig (Extended K)}
    (hvalid : validatePerception self perception = .ok ())
    (hother : validatePerception self other = .ok ()) (hloot : other.loot = perception.loot)
    (hzone : other.safeZone = perception.safeZone)
    (hclosest : ∀ predicate, closestActor self other.actors config.contenderPerceptionRadius
      predicate = closestActor self perception.actors config.contenderPerceptionRadius predicate) :
    decideContender self other config = decideContender self perception config := by
  unfold decideContender wantedMedKit wantedWeapon
  rw [hvalid, hother, hloot, hzone, hclosest]

theorem decideNeutral_congr {self : ActorSnapshot (Extended K)}
    {perception other : BotPerception (Extended K)} {config : MatchConfig (Extended K)}
    {controller : BehaviorNode} (hvalid : validatePerception self perception = .ok ())
    (hother : validatePerception self other = .ok ())
    (hclosest : ∀ predicate, closestActor self other.actors config.neutralPerceptionRadius
      predicate = closestActor self perception.actors config.neutralPerceptionRadius predicate) :
    decideNeutral self other config controller =
      decideNeutral self perception config controller := by
  unfold decideNeutral
  rw [hvalid, hother, hclosest]

theorem validatePerception_self {self : ActorSnapshot (Extended K)}
    {perception : BotPerception (Extended K)}
    (h : validatePerception self perception = .ok ()) :
    self.position.isFinite = true ∧
      (∀ actor ∈ perception.actors, actor.position.isFinite = true) ∧
      ∃ outside, isOutsideSafeZone self.position perception.safeZone = .ok outside := by
  obtain ⟨⟨⟩, hself, h⟩ := except_bind_eq_ok.mp h
  obtain ⟨⟨⟩, hactors, h⟩ := except_bind_eq_ok.mp h
  obtain ⟨⟨⟩, -, h⟩ := except_bind_eq_ok.mp h
  obtain ⟨outside, houtside, -⟩ := except_bind_eq_ok.mp h
  refine ⟨(validateBotActor_eq_ok.mp hself).1, fun actor hactor => ?_, outside, houtside⟩
  exact (validateBotActor_eq_ok.mp (validatePerceivedActors_mem hactors actor hactor)).1

theorem decideContender_exists {self : ActorSnapshot (Extended K)}
    {perception : BotPerception (Extended K)} {config : MatchConfig (Extended K)}
    (hconfig : validateMatchConfig config = .ok ())
    (hvalid : validatePerception self perception = .ok ()) (hrole : self.role = .contender) :
    ∃ decision, decideContender self perception config = .ok decision ∧
      decision.actor = self.id := by
  obtain ⟨-, -, outside, houtside⟩ := validatePerception_self hvalid
  have haccepted : (self.role != .contender) = false := bne_eq_false_iff_eq.mpr hrole
  unfold decideContender
  rw [hconfig, hvalid, haccepted, houtside]
  simp only [bind, Except.bind, throwIf, Bool.false_eq_true, if_false]
  split
  · exact ⟨_, rfl, rfl⟩
  split
  · exact ⟨_, rfl, rfl⟩
  split
  · exact ⟨_, rfl, rfl⟩
  split
  · exact ⟨_, rfl, rfl⟩
  split
  · exact ⟨_, rfl, rfl⟩
  · exact ⟨_, rfl, rfl⟩

/-! ## The controllers -/

/-- A selector that ends with an action finds one. -/
theorem tickSelector_success {R : Type} [Scalar R] (context : BehaviorContext R)
    (children : List BehaviorNode) (command : AiCommandType) :
    (BehaviorNode.tickSelector context (children ++ [.action command])).2 = .success := by
  induction children generalizing context with
  | nil => simp [BehaviorNode.tickSelector, BehaviorNode.tick]
  | cons child children ih =>
    rw [List.cons_append, BehaviorNode.tickSelector]
    split
    · exact ih _
    · rfl

theorem behaviorTreeAiController_success {R : Type} [Scalar R] (archetype : AiArchetype)
    (context : BehaviorContext R) :
    ((behaviorTreeAiController archetype).tick context).2 = .success := by
  cases archetype with
  | melee =>
    rw [behaviorTreeAiController, BehaviorNode.tick]
    exact tickSelector_success context [attackSequence, chaseSequence] .idle
  | ranged =>
    rw [behaviorTreeAiController, BehaviorNode.tick]
    exact tickSelector_success context [retreatSequence, attackSequence, chaseSequence] .idle

theorem tickController_exists (archetype : AiArchetype) {blackboard : AiBlackboard (Extended K)}
    (hself : blackboard.selfPosition.isFinite = true)
    (htarget : blackboard.targetPosition.isFinite = true)
    (hvalid : validateAiBlackboard blackboard = .ok ()) :
    ∃ command, tickController (behaviorTreeAiController archetype) blackboard = .ok command := by
  obtain ⟨x, z, hx⟩ := Vec2.isFinite_iff.mp hself
  obtain ⟨x', z', hx'⟩ := Vec2.isFinite_iff.mp htarget
  have hselects (distanceToTarget : Extended K) : ∃ command,
      (throwIf (((behaviorTreeAiController archetype).tick
          { blackboard, distanceToTarget }).2 != .success)
        (.logicError "AI behavior tree did not select a command") >>= fun _ =>
        .ok ((behaviorTreeAiController archetype).tick
          { blackboard, distanceToTarget }).1.command) = .ok command := by
    refine ⟨_, throwIf_bind_eq_ok.mpr ⟨?_, rfl⟩⟩
    rw [behaviorTreeAiController_success]
    rfl
  unfold tickController
  rw [hvalid]
  cases htargeted : blackboard.hasTarget with
  | false => exact hselects 0
  | true =>
    rw [hx, hx']
    exact hselects (.finite (SquareRoot.root ((x' - x) * (x' - x) + (z' - z) * (z' - z))))

section Ordered

variable [IsStrictOrderedRing K]

/-- A vector that is not zero has a direction. -/
theorem normalize_exists [PositiveRoot K] {x z : K} (h : x * x + z * z ≠ 0) :
    ∃ direction, Vec2.normalize ⟨Extended.finite x, .finite z⟩ = .ok direction := by
  have hnonneg : 0 ≤ x * x + z * z := add_nonneg (mul_self_nonneg x) (mul_self_nonneg z)
  have hroot := PositiveRoot.root_pos (lt_of_le_of_ne hnonneg h.symm)
  have hpassed : decide (Extended.finite (SquareRoot.root (x * x + z * z)) ≤ 0) = false := by
    rw [decide_eq_false_iff_not, Extended.zero_eq, Extended.finite_le]
    exact not_le.mpr hroot
  have hdivides : (!Scalar.isFinite (Extended.finite (SquareRoot.root (x * x + z * z))) ||
      Scalar.equal (Extended.finite (SquareRoot.root (x * x + z * z))) 0) = false := by
    rw [Extended.isFinite_finite, Bool.not_true, Bool.false_or, ← Bool.not_eq_true,
      Extended.equal_iff]
    exact fun hzero => hroot.ne' (Extended.finite.inj hzero)
  unfold Vec2.normalize Vec2.divide
  rw [Vec2.length_finite]
  exact ⟨_, except_bind_eq_ok.mpr ⟨_, rfl, throwIf_bind_eq_ok.mpr
    ⟨hpassed, throwIf_bind_eq_ok.mpr ⟨hdivides, rfl⟩⟩⟩⟩

theorem retreatDestination_exists [PositiveRoot K] {self target : ActorSnapshot (Extended K)}
    (hself : self.position.isFinite = true) (htarget : target.position.isFinite = true) :
    ∃ destination, retreatDestination self target = .ok destination := by
  obtain ⟨x, z, hx⟩ := Vec2.isFinite_iff.mp hself
  obtain ⟨x', z', hx'⟩ := Vec2.isFinite_iff.mp htarget
  have haway : self.position - target.position = ⟨.finite (x - x'), .finite (z - z')⟩ := by
    rw [hx, hx']
    rfl
  unfold retreatDestination
  dsimp only
  rw [haway]
  split
  · exact ⟨_, rfl⟩
  next hapart =>
    have hnonzero : (x - x') * (x - x') + (z - z') * (z - z') ≠ 0 := fun hzero =>
      hapart (Extended.equal_iff.mpr (congrArg Extended.finite hzero))
    obtain ⟨direction, hdirection⟩ := normalize_exists hnonzero
    rw [hdirection]
    exact ⟨_, rfl⟩

theorem weaponDefinitionFor_range (weapon : WeaponType) : ∃ range : K,
    (weaponDefinitionFor weapon : WeaponDefinition (Extended K)).range = .finite range ∧
      0 ≤ range := by
  cases weapon with
  | blade => exact ⟨2.2, rfl, by norm_num⟩
  | rifle => exact ⟨18.0, rfl, by norm_num⟩
  | arcPulse => exact ⟨10.0, rfl, by norm_num⟩

theorem decideNeutral_exists [PositiveRoot K] {self : ActorSnapshot (Extended K)}
    {perception : BotPerception (Extended K)} {config : MatchConfig (Extended K)}
    (archetype : AiArchetype) (hconfig : validateMatchConfig config = .ok ())
    (hvalid : validatePerception self perception = .ok ()) (hrole : self.role = .neutral)
    (hneutral : self.neutralArchetype ≠ .none) :
    ∃ decision, decideNeutral self perception config (behaviorTreeAiController archetype) =
      .ok decision ∧ decision.actor = self.id := by
  obtain ⟨hself, hactors, -⟩ := validatePerception_self hvalid
  have haccepted : (self.role != .neutral || self.neutralArchetype == .none) = false := by
    rw [hrole, Bool.or_eq_false_iff]
    exact ⟨rfl, beq_eq_false_iff_ne.mpr hneutral⟩
  unfold decideNeutral
  rw [hconfig, hvalid, haccepted]
  simp only [bind, Except.bind, throwIf, Bool.false_eq_true, if_false]
  split
  · exact ⟨_, rfl, rfl⟩
  have htargets : ∀ target, closestActor self perception.actors config.neutralPerceptionRadius
      (fun actor => actor.role = .contender) = some target →
        target.position.isFinite = true := by
    intro target htarget
    have hreached := List.mem_of_mem_filter (minElement_mem htarget)
    exact hactors target (List.mem_of_mem_filter hreached)
  generalize closestActor self perception.actors config.neutralPerceptionRadius
    (fun actor => actor.role = .contender) = target at htargets
  have hpoint : (target.elim ⟨0, 0⟩ ActorSnapshot.position).isFinite = true := by
    cases target with
    | none => exact Vec2.isFinite_finite 0 0
    | some target => exact htargets target rfl
  obtain ⟨range, hrange, hnonneg⟩ := weaponDefinitionFor_range (K := K) self.weapon
  have hblackboard : validateAiBlackboard {
      selfPosition := self.position
      targetPosition := target.elim ⟨0, 0⟩ ActorSnapshot.position
      hasTarget := target.isSome
      cooldownReady := self.cooldownTicksRemaining = 0
      attackRange := (weaponDefinitionFor self.weapon : WeaponDefinition (Extended K)).range
      preferredRange := 8.0
      retreatRange := 3.0 } = .ok () := by
    have hpreferred : (8.0 : Extended K) = .finite 8.0 := rfl
    have hretreat : (3.0 : Extended K) = .finite 3.0 := rfl
    have height : (0 : K) ≤ 8.0 := by norm_num
    have hthree : (0 : K) ≤ 3.0 := by norm_num
    rw [validateAiBlackboard, throwIf_eq_ok]
    dsimp only
    rw [hself, hpoint, hrange, hpreferred, hretreat]
    simp [hnonneg, height, hthree]
  obtain ⟨command, hcommand⟩ := tickController_exists archetype hself hpoint hblackboard
  rw [hcommand]
  dsimp only
  split
  · exact ⟨_, rfl, rfl⟩
  next target =>
    obtain ⟨destination, hdestination⟩ := retreatDestination_exists hself (htargets target rfl)
    rw [hdestination]
    exact ⟨_, rfl, rfl⟩
  · exact ⟨_, rfl, rfl⟩
  · exact ⟨_, rfl, rfl⟩

end Ordered

end SurvivalArena
