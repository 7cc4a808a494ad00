import SurvivalArena.Simulation.OfflineMatch

/-!
# The population of a match

A start numbers the actors in the order in which they are spawned, the contenders first.
-/

namespace SurvivalArena

variable {R G : Type} [Precision R]

theorem repeatM_invariant {α : Type} {I : α → Prop} {step : α → Except Exception α}
    (hstep : ∀ before after, I before → step before = .ok after → I after) {count : Nat}
    {before after : α} (hbefore : I before) (h : repeatM step count before = .ok after) :
    I after := by
  induction count generalizing before with
  | zero => exact Except.ok.inj h ▸ hbefore
  | succ count ih =>
    obtain ⟨middle, hmiddle, hrest⟩ := except_bind_eq_ok.mp h
    exact ih (hstep before middle hbefore hmiddle) hrest

/-- Steps over the numbers below a count. -/
theorem foldlM_range_invariant {α : Type} {I : Nat → α → Prop}
    {step : α → Nat → Except Exception α} {count : Nat}
    (hstep : ∀ index before after, index < count → I index before →
      step before index = .ok after → I (index + 1) after) {before after : α}
    (hbefore : I 0 before) (h : (List.range count).foldlM step before = .ok after) :
    I count after := by
  induction count generalizing after with
  | zero => exact Except.ok.inj h ▸ hbefore
  | succ count ih =>
    rw [List.range_succ, List.foldlM_append] at h
    obtain ⟨middle, hmiddle, hrest⟩ := except_bind_eq_ok.mp h
    rw [List.foldlM_cons] at hrest
    obtain ⟨last, hlast, hdone⟩ := except_bind_eq_ok.mp hrest
    have hsame : last = after := Except.ok.inj hdone
    subst hsame
    have hearlier : I count middle := ih (fun index before after hindex =>
      hstep index before after (Nat.lt_succ_of_lt hindex)) hmiddle
    exact hstep count middle last (Nat.lt_succ_self count) hearlier hlast

namespace SpawnState

/-- The actors spawned so far: the first ones are the contenders. -/
structure Populated (state : SpawnState R G) (contenders : Nat) : Prop where
  metadata : state.actors.length = state.archetypes.length
  numbered : ∀ (index : Nat) (actor : CombatActor R), state.actors[index]? = some actor →
    actor.id = UInt32.ofNat index ∧ (actor.role = .contender ↔ index < contenders) ∧
      actor.alive = true

omit [Precision R] in
theorem populated_empty (random : G) (contenders : Nat) :
    Populated ({ random } : SpawnState R G) contenders where
  metadata := rfl
  numbered index actor hactor := by
    change ([] : List (CombatActor R))[index]? = some actor at hactor
    rw [List.getElem?_nil] at hactor
    cases hactor

omit [Precision R] in
theorem Populated.push {state : SpawnState R G} {contenders : Nat}
    (h : state.Populated contenders) {actor : CombatActor R} (archetype : NeutralArchetype)
    (random : G) (hid : actor.id = UInt32.ofNat state.actors.length)
    (hrole : actor.role = .contender ↔ state.actors.length < contenders)
    (halive : actor.alive = true) :
    (state.push actor archetype random).Populated contenders where
  metadata := by
    show (state.actors ++ [actor]).length = (state.archetypes ++ [archetype]).length
    rw [List.length_append, List.length_append, h.metadata]
    rfl
  numbered index other hother := by
    change (state.actors ++ [actor])[index]? = some other at hother
    rw [List.getElem?_append] at hother
    split at hother
    · exact h.numbered index other hother
    next hlate =>
      obtain ⟨hbound, hsame⟩ := List.getElem?_eq_some_iff.mp hother
      have hindex : index = state.actors.length := by
        rw [List.length_singleton] at hbound
        omega
      rw [List.getElem_singleton] at hsame
      rw [hindex, ← hsame]
      exact ⟨hid, hrole, halive⟩

end SpawnState

section Sampling

variable [RandomEngine G]

omit [Precision R] [RandomEngine G] in
/-- A position that is drawn was accepted. -/
theorem spawnPosition_accepted {exhausted : String} {draw : G → Vec2 R × G}
    {accepts : Vec2 R → Except Exception Bool} {attempts : Nat} {random later : G}
    {position : Vec2 R}
    (h : spawnPosition exhausted draw accepts attempts random = .ok (position, later)) :
    accepts position = .ok true := by
  induction attempts generalizing random with
  | zero => cases h
  | succ attempts ih =>
    obtain ⟨accepted, haccepted, h⟩ := except_bind_eq_ok.mp h
    cases accepted with
    | true =>
      obtain rfl := congrArg Prod.fst (Except.ok.inj h)
      exact haccepted
    | false => exact ih h

theorem spawnContender_spec [Trigonometry R] {navMesh : NavMesh R} {config : MatchConfig R}
    {state after : SpawnState R G} {index : Nat}
    (h : spawnContender navMesh config state index = .ok after) : ∃ position random,
      isFree navMesh state.actors config.contenderSpawnSpacing position = .ok true ∧
      after = state.push { id := UInt32.ofNat state.actors.length, role := .contender, position }
        .none random := by
  obtain ⟨⟨position, random⟩, hposition, hafter⟩ := except_bind_eq_ok.mp h
  exact ⟨position, random, spawnPosition_accepted hposition, (Except.ok.inj hafter).symm⟩

theorem spawnNeutral_spec {navMesh : NavMesh R} {config : MatchConfig R}
    {archetype : NeutralArchetype} {health : Int} {weapon : WeaponType}
    {state after : SpawnState R G}
    (h : spawnNeutral navMesh config archetype health weapon state = .ok after) :
    ∃ position random,
      isFree navMesh state.actors config.neutralSpawnSpacing position = .ok true ∧
      after = state.push
        { id := UInt32.ofNat state.actors.length, role := .neutral, position, health, weapon }
        archetype random := by
  obtain ⟨⟨position, random⟩, hposition, hafter⟩ := except_bind_eq_ok.mp h
  exact ⟨position, random, spawnPosition_accepted hposition, (Except.ok.inj hafter).symm⟩

omit [Precision R] [RandomEngine G] in
theorem SpawnState.length_push (state : SpawnState R G) (actor : CombatActor R)
    (archetype : NeutralArchetype) (random : G) :
    (state.push actor archetype random).actors.length = state.actors.length + 1 :=
  List.length_append

/-- All contenders and then the neutral actors. -/
theorem spawnActors_populated [Trigonometry R] {navMesh : NavMesh R} {config : MatchConfig R}
    {random : G} {state : SpawnState R G}
    (h : spawnActors navMesh config random = .ok state) :
    state.Populated config.contenderCount.toNat ∧
      config.contenderCount.toNat ≤ state.actors.length := by
  obtain ⟨contenders, hcontenders, hneutrals⟩ := except_bind_eq_ok.mp h
  obtain ⟨melee, hmelee, hranged⟩ := except_bind_eq_ok.mp hneutrals
  have hfirst : contenders.Populated config.contenderCount.toNat ∧
      contenders.actors.length = config.contenderCount.toNat := by
    refine foldlM_range_invariant (I := fun index (state : SpawnState R G) =>
      state.Populated config.contenderCount.toNat ∧ state.actors.length = index)
      (fun index before after hindex hbefore hspawned => ?_)
      ⟨SpawnState.populated_empty random _, rfl⟩ hcontenders
    obtain ⟨hpopulated, hlength⟩ := hbefore
    obtain ⟨position, random, -, rfl⟩ := spawnContender_spec hspawned
    refine ⟨hpopulated.push .none random rfl ?_ rfl, ?_⟩
    · exact iff_of_true rfl (hlength ▸ hindex)
    · rw [SpawnState.length_push, hlength]
  have hneutral : ∀ (archetype : NeutralArchetype) (health : Int) (weapon : WeaponType)
      (before after : SpawnState R G), before.Populated config.contenderCount.toNat ∧
        config.contenderCount.toNat ≤ before.actors.length →
      spawnNeutral navMesh config archetype health weapon before = .ok after →
      after.Populated config.contenderCount.toNat ∧
        config.contenderCount.toNat ≤ after.actors.length := by
    intro archetype health weapon before after hbefore hspawned
    obtain ⟨hpopulated, hlength⟩ := hbefore
    obtain ⟨position, random, -, rfl⟩ := spawnNeutral_spec hspawned
    refine ⟨hpopulated.push archetype random rfl ?_ rfl, ?_⟩
    · exact iff_of_false (by simp) (not_lt.mpr hlength)
    · rw [SpawnState.length_push]
      exact Nat.le_succ_of_le hlength
  have hmeleeDone := repeatM_invariant (hneutral _ _ _) ⟨hfirst.1, hfirst.2.ge⟩ hmelee
  exact repeatM_invariant (hneutral _ _ _) hmeleeDone hranged

end Sampling

namespace OfflineMatch

/-- What a created match has after its start. -/
structure Spawned (config : MatchConfig R) (game : OfflineMatch R) : Prop where
  same : game.config = config
  phase : game.phase = .running
  tick : game.tick = 0
  result : game.result = none
  idle : game.queuedLifecycleCommands = []
  metadata : game.actors.length = game.neutralArchetypes.length
  contenders : config.contenderCount.toNat ≤ game.actors.length
  numbered : ∀ (index : Nat) (actor : CombatActor R), game.actors[index]? = some actor →
    actor.id = UInt32.ofNat index ∧
      (actor.role = .contender ↔ index < config.contenderCount.toNat) ∧ actor.alive = true

theorem start_spawned [Trigonometry R] {navMesh : NavMesh R} {config : MatchConfig R}
    {created started : OfflineMatch R} (hcreated : create navMesh config = .ok created)
    (hstarted : created.start = .ok started) : started.Spawned config := by
  obtain ⟨-, -, hcreated⟩ := except_bind_eq_ok.mp hcreated
  obtain rfl := Except.ok.inj hcreated
  obtain ⟨-, -, hstarted⟩ := except_bind_eq_ok.mp hstarted
  obtain ⟨spawned, hspawned, hstarted⟩ := except_bind_eq_ok.mp hstarted
  obtain rfl := Except.ok.inj hstarted
  obtain ⟨-, -, hspawned⟩ := except_bind_eq_ok.mp hspawned
  obtain ⟨state, hstate, hspawned⟩ := except_bind_eq_ok.mp hspawned
  obtain ⟨agents, -, hspawned⟩ := except_bind_eq_ok.mp hspawned
  obtain ⟨loot, -, hspawned⟩ := except_bind_eq_ok.mp hspawned
  obtain rfl := Except.ok.inj hspawned
  obtain ⟨hpopulated, hlength⟩ := spawnActors_populated hstate
  exact {
    same := rfl
    phase := rfl
    tick := rfl
    result := rfl
    idle := rfl
    metadata := hpopulated.metadata
    contenders := hlength
    numbered := hpopulated.numbered }

theorem create_config {navMesh : NavMesh R} {config : MatchConfig R} {created : OfflineMatch R}
    (h : create navMesh config = .ok created) : validateMatchConfig config = .ok () := by
  obtain ⟨valid, hvalid, -⟩ := except_bind_eq_ok.mp h
  exact hvalid

theorem validateMatchConfig_tickRate {config : MatchConfig R}
    (h : validateMatchConfig config = .ok ()) : config.tickRate = 30 := by
  obtain ⟨hrate, -⟩ := throwIf_bind_eq_ok.mp h
  rw [Bool.or_eq_false_iff, bne_eq_false_iff_eq] at hrate
  exact hrate.1

theorem Spawned.snapshot_exists {config : MatchConfig R} {game : OfflineMatch R}
    (h : game.Spawned config) (hrate : config.tickRate ≠ 0) :
    ∃ snapshot, game.snapshot = .ok snapshot := by
  have hmetadata : (game.actors.length != game.neutralArchetypes.length) = false := by
    rw [h.metadata, bne_self_eq_false]
  have htickRate : (game.config.tickRate == 0) = false := by
    rw [h.same, beq_eq_false_iff_ne]
    exact hrate
  unfold OfflineMatch.snapshot evaluateSafeZone throwIf
  rw [hmetadata, htickRate]
  exact ⟨_, rfl⟩

theorem Spawned.isActive {config : MatchConfig R} {game : OfflineMatch R}
    (h : game.Spawned config) : game.isActive = true := by
  unfold OfflineMatch.isActive
  rw [h.phase]
  rfl

end OfflineMatch

end SurvivalArena
