import SurvivalArena.Simulation.MatchRun

/-!
# What the phases of a tick book

Disconnections, loot and the safe zone change the actors as the events of these
phases say.
-/

namespace SurvivalArena

open KeyedList

variable {R : Type}

/-! ## Actors -/

/-- The health is in its range and decides whether the actor is alive. -/
structure Healthy (actor : CombatActor R) : Prop where
  nonneg : 0 ≤ actor.health
  le : actor.health ≤ 100
  alive : actor.alive = true ↔ 0 < actor.health

/-- The actors have different numbers. -/
def Distinct (actors : List (CombatActor R)) : Prop :=
  (actors.map CombatActor.id).Nodup

theorem findActor_mem {actors : List (CombatActor R)} {id : ActorId} {actor : CombatActor R}
    (h : findActor actors id = some actor) : actor ∈ actors ∧ actor.id = id :=
  ⟨List.mem_of_find?_eq_some h, by simpa using List.find?_some h⟩

theorem Distinct.eq_of_id {actors : List (CombatActor R)} (h : Distinct actors)
    {first second : CombatActor R} (hfirst : first ∈ actors) (hsecond : second ∈ actors)
    (hid : first.id = second.id) : first = second :=
  List.inj_on_of_nodup_map h hfirst hsecond hid

theorem findActor_eq_some {actors : List (CombatActor R)} (h : Distinct actors)
    {actor : CombatActor R} (hactor : actor ∈ actors) :
    findActor actors actor.id = some actor := by
  cases hfound : findActor actors actor.id with
  | none =>
    have hnone := List.find?_eq_none.mp hfound actor hactor
    simp at hnone
  | some other =>
    obtain ⟨hother, hid⟩ := findActor_mem hfound
    rw [h.eq_of_id hother hactor hid]

/-! ## Disconnections -/

namespace OfflineMatch

variable [Precision R]

theorem started_healthy {game : OfflineMatch R}
    (hhealthy : ∀ actor ∈ game.actors, Healthy actor) :
    ∀ actor ∈ game.started.actors, Healthy actor := by
  intro actor hactor
  obtain ⟨before, hbefore, rfl⟩ := List.mem_map.mp hactor
  unfold disconnectActor
  split
  · exact { nonneg := le_refl 0, le := by simp, alive := by simp }
  · exact hhealthy before hbefore

/-! ## Loot -/

omit [Precision R] in
theorem pickUp_healthy {actor : CombatActor R} (hhealthy : Healthy actor)
    (hcontends : actor.contends = true) (item : LootItem R) :
    Healthy (pickUp actor item).1 ∧ (pickUp actor item).1.contends = true := by
  have hnonneg := hhealthy.nonneg
  have hle := hhealthy.le
  have halive : actor.alive = true := (Bool.and_eq_true_iff.mp hcontends).2
  have hpositive := hhealthy.alive.mp halive
  unfold pickUp
  cases item.type with
  | rifle => exact ⟨⟨hnonneg, hle, hhealthy.alive⟩, hcontends⟩
  | arcPulse => exact ⟨⟨hnonneg, hle, hhealthy.alive⟩, hcontends⟩
  | medKit =>
    refine ⟨⟨?_, ?_, ?_⟩, hcontends⟩
    · dsimp only
      omega
    · dsimp only
      omega
    · dsimp only
      exact ⟨fun _ => by omega, fun _ => halive⟩

theorem nearestLoot_mem {actor : CombatActor R} {loot : List (LootItem R)}
    {pickupRadius : R} {item : LootItem R}
    (h : nearestLoot actor loot pickupRadius = some item) :
    item ∈ loot ∧ item.active = true := by
  obtain ⟨hmem, hreached⟩ := List.mem_filter.mp (minElement_mem h)
  exact ⟨hmem, (Bool.and_eq_true_iff.mp hreached).1⟩

/-- A contender picks up nothing or an active item. -/
theorem resolveNearestLootPickup_returned {actor : CombatActor R} {loot : List (LootItem R)}
    {pickupRadius : R} {pickup : Pickup R} (hcontends : actor.contends = true)
    (h : resolveNearestLootPickup actor loot pickupRadius = .ok pickup) :
    pickup = { actor, loot } ∨ ∃ item ∈ loot, item.active = true ∧
      pickup = {
        actor := (pickUp actor item).1
        loot := deactivate loot item.id
        result := some (pickUp actor item).2 } := by
  unfold resolveNearestLootPickup at h
  obtain ⟨⟨⟩, -, h⟩ := except_bind_eq_ok.mp h
  obtain ⟨⟨⟩, -, h⟩ := except_bind_eq_ok.mp h
  obtain ⟨⟨⟩, -, h⟩ := except_bind_eq_ok.mp h
  rw [if_neg (by simp [hcontends])] at h
  cases hnearest : nearestLoot actor loot pickupRadius with
  | none =>
    rw [hnearest] at h
    exact .inl (Except.ok.inj h).symm
  | some item =>
    rw [hnearest] at h
    obtain ⟨hmem, hactive⟩ := nearestLoot_mem hnearest
    exact .inr ⟨item, hmem, hactive, (Except.ok.inj h).symm⟩

end OfflineMatch

/-! ## The safe zone -/

section SafeZone

variable [Precision R]

theorem evaluateSafeZone_damage {tick tickRate : UInt32} {zone : SafeZoneState R}
    (h : evaluateSafeZone tick tickRate = .ok zone) : 0 ≤ zone.damagePerSecond := by
  obtain ⟨⟨⟩, -, h⟩ := except_bind_eq_ok.mp h
  cases h
  cases hrunning : safeZoneStages.find? (fun definition : SafeZoneStageDefinition R =>
      tick.toNat < definition.endSecond * tickRate.toNat) with
  | none =>
    have hlast : (0 : Int) ≤ 32 := by decide
    exact hlast
  | some definition =>
    have hstage : ∀ definition ∈ (safeZoneStages : List (SafeZoneStageDefinition R)),
        0 ≤ definition.damagePerSecond := by
      simp [safeZoneStages]
    exact hstage definition (List.mem_of_find?_eq_some hrunning)

theorem safeZoneDamageForTick_nonneg {tick tickRate : UInt32} {damage : Int}
    (h : safeZoneDamageForTick R tick tickRate = .ok damage) : 0 ≤ damage := by
  obtain ⟨⟨⟩, -, h⟩ := except_bind_eq_ok.mp h
  split at h
  · cases h
    exact le_refl 0
  · obtain ⟨zone, hzone, h⟩ := except_bind_eq_ok.mp h
    cases h
    exact evaluateSafeZone_damage hzone

omit [Precision R] in
theorem zoneHealth_bounds {actor : CombatActor R} (hhealthy : Healthy actor)
    (halive : actor.alive = true) {damage : Int} (hdamage : 0 ≤ damage)
    (protectedActor : Option ActorId) :
    0 ≤ zoneHealth protectedActor damage actor ∧
      zoneHealth protectedActor damage actor ≤ actor.health := by
  have hpositive := hhealthy.alive.mp halive
  unfold zoneHealth
  split <;> omega

/-- An actor outside of the zone after its damage. -/
def hurtByZone (health : Int) (actor : CombatActor R) : CombatActor R :=
  { actor with health, alive := if health = 0 then false else actor.alive }

omit [Precision R] in
theorem hurtByZone_healthy {actor : CombatActor R} (hhealthy : Healthy actor)
    (halive : actor.alive = true) {health : Int} (hnonneg : 0 ≤ health)
    (hle : health ≤ actor.health) : Healthy (hurtByZone health actor) := by
  refine ⟨hnonneg, hle.trans hhealthy.le, ?_⟩
  unfold hurtByZone
  by_cases hdead : health = 0
  · simp [hdead]
  · simp only [if_neg hdead, halive, true_iff]
    omega

omit [Precision R] in
theorem mem_zoneEvents {tick : UInt32} {actor : CombatActor R} {health : Int}
    {event : MatchEvent} (h : event ∈ zoneEvents tick actor health) :
    (event.actor = actor.id ∧ event.subject = none) ∧
      (event.type = .damageApplied ∨ event.type = .actorDied) := by
  rcases List.mem_append.mp h with h | h
  · split at h
    · rw [List.mem_singleton.mp h]
      exact ⟨⟨rfl, rfl⟩, .inl rfl⟩
    · cases h
  · split at h
    · rw [List.mem_singleton.mp h]
      exact ⟨⟨rfl, rfl⟩, .inr rfl⟩
    · cases h

end SafeZone

end SurvivalArena
