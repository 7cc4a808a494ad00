import SurvivalArena.Simulation.OfflineMatchStep

/-!
# What the phases of a tick leave alone

A reading of an actor that ignores what a phase writes is the same after the phase, also
where the phase throws.
-/

namespace SurvivalArena

variable {R : Type} {γ : Type} {reading : CombatActor R → γ}

/-- The reading ignores health, life and eliminations. -/
def IgnoresHarm (reading : CombatActor R → γ) : Prop :=
  ∀ actor health alive eliminations,
    reading { actor with health, alive, eliminations } = reading actor

/-- The reading ignores the weapon. -/
def IgnoresWeapon (reading : CombatActor R → γ) : Prop :=
  ∀ actor weapon, reading { actor with weapon } = reading actor

/-- The reading ignores the cooldown. -/
def IgnoresCooldown (reading : CombatActor R → γ) : Prop :=
  ∀ actor cooldownTicksRemaining, reading { actor with cooldownTicksRemaining } = reading actor

/-- What the movement of an actor depends on. -/
def CombatActor.body (actor : CombatActor R) : ActorId × ActorRole × Vec2 R :=
  (actor.id, actor.role, actor.position)

theorem body_ignoresHarm : IgnoresHarm (CombatActor.body (R := R)) :=
  fun _ _ _ _ => rfl

theorem body_ignoresWeapon : IgnoresWeapon (CombatActor.body (R := R)) :=
  fun _ _ => rfl

theorem body_ignoresCooldown : IgnoresCooldown (CombatActor.body (R := R)) :=
  fun _ _ => rfl

theorem map_reading {actors : List (CombatActor R)} {change : CombatActor R → CombatActor R}
    (h : ∀ actor, reading (change actor) = reading actor) :
    (actors.map change).map reading = actors.map reading := by
  rw [List.map_map]
  exact List.map_congr_left fun actor _ => h actor

theorem updateActor_reading (actors : List (CombatActor R)) (id : ActorId)
    {change : CombatActor R → CombatActor R}
    (h : ∀ actor, reading (change actor) = reading actor) :
    (updateActor actors id change).map reading = actors.map reading := by
  refine map_reading fun actor => ?_
  split
  · exact h actor
  · rfl

/-! ## Combat -/

theorem applyContributions_reading (h : IgnoresHarm reading)
    (contributions : List (ActorId × DamageContribution)) (ids : List ActorId)
    (actors : List (CombatActor R)) (resolution : CombatResolution) :
    (applyContributions contributions ids actors resolution).1.map reading =
      actors.map reading := by
  induction ids generalizing actors resolution with
  | nil => rfl
  | cons id ids ih =>
    rw [applyContributions]
    split
    · exact ih actors resolution
    · dsimp only
      split
      · rfl
      · refine attempt_keeps (List.map reading) rfl fun source => (ih _ _).trans ?_
        exact updateActor_reading actors id fun actor => h actor _ _ actor.eliminations

theorem creditKills_reading (h : IgnoresHarm reading) (deaths : List DeathRecord)
    (actors : List (CombatActor R)) :
    (creditKills deaths actors).1.map reading = actors.map reading := by
  induction deaths generalizing actors with
  | nil => rfl
  | cons death deaths ih =>
    rw [creditKills]
    split
    · exact ih actors
    · split
      · rfl
      · refine (ih _).trans (updateActor_reading actors _ fun actor => ?_)
        exact h actor actor.health actor.alive _

theorem revokeKill_reading (h : IgnoresHarm reading) {actors revoked : List (CombatActor R)}
    {death : DeathRecord} (hrevoked : revokeKill actors death = .ok revoked) :
    revoked.map reading = actors.map reading := by
  unfold revokeKill at hrevoked
  split at hrevoked
  · obtain rfl := Except.ok.inj hrevoked
    rfl
  split at hrevoked
  · cases hrevoked
  split at hrevoked
  · cases hrevoked
  · obtain rfl := Except.ok.inj hrevoked
    exact updateActor_reading actors _ fun actor => h actor actor.health actor.alive _

theorem preserveCombatWipe_reading (h : IgnoresHarm reading) (actors : List (CombatActor R))
    (preCombatRanks : List ContenderRankInput) (resolution : CombatResolution) :
    (preserveCombatWipe actors preCombatRanks resolution).1.map reading =
      actors.map reading := by
  unfold preserveCombatWipe
  split
  · rfl
  refine attempt_keeps (List.map reading) rfl fun protectedActor => ?_
  split
  · rfl
  split
  · rfl
  refine attempt_object (P := fun final : List (CombatActor R) =>
    final.map reading = actors.map reading) rfl
    fun revoked hrevoked => ?_
  have hkeeps := revokeKill_reading h hrevoked
  split
  · refine (updateActor_reading revoked _ fun actor => ?_).trans hkeeps
    exact h actor _ _ actor.eliminations
  · exact hkeeps

section Phases

variable [Precision R]

theorem resolveAttacks_reading (hharm : IgnoresHarm reading) (hcooldown : IgnoresCooldown reading)
    (actors : List (CombatActor R)) (intents : List AttackIntent) :
    (resolveAttacks actors intents).1.map reading = actors.map reading := by
  unfold resolveAttacks
  refine attempt_keeps (List.map reading) rfl fun attacks => ?_
  have hcharged : (attacks.acceptedIntents.foldl (fun actors intent =>
      updateActor actors intent.attacker startCooldown) actors).map reading =
        actors.map reading := by
    induction attacks.acceptedIntents generalizing actors with
    | nil => rfl
    | cons intent intents ih =>
      rw [List.foldl_cons, ih]
      exact updateActor_reading actors _ fun actor => hcooldown actor _
  have hstruck := (applyContributions_reading hharm attacks.contributions
    (targetsOf attacks.contributions) _ { acceptedIntents := attacks.acceptedIntents }).trans
      hcharged
  dsimp only
  refine attempt_keeps (List.map reading) hstruck fun resolution => ?_
  have hcredited := (creditKills_reading hharm resolution.deaths _).trans hstruck
  exact attempt_keeps (List.map reading) hcredited fun _ => hcredited

theorem tickWeaponCooldowns_reading (h : IgnoresCooldown reading)
    {actors actors' : List (CombatActor R)} (hticked : tickWeaponCooldowns actors = .ok actors') :
    actors'.map reading = actors.map reading := by
  obtain ⟨⟨⟩, -, hticked⟩ := except_bind_eq_ok.mp hticked
  obtain rfl := Except.ok.inj hticked
  refine map_reading fun actor => ?_
  split
  · exact h actor _
  · rfl

/-! ## The safe zone -/

theorem hurtOutside_reading (h : IgnoresHarm reading) (zone : SafeZoneState R) (tick : UInt32)
    (damage : Int) (protectedActor : Option ActorId) (actors : List (CombatActor R)) :
    (hurtOutside zone tick damage protectedActor actors).1.map reading =
      actors.map reading := by
  induction actors with
  | nil => rfl
  | cons actor actors ih =>
    have hactor (kept : CombatActor R) (hkept : reading kept = reading actor) :
        (kept :: (hurtOutside zone tick damage protectedActor actors).1).map reading =
          (actor :: actors).map reading := by
      rw [List.map_cons, List.map_cons, hkept, ih]
    rw [hurtOutside]
    split
    · exact hactor actor rfl
    refine attempt_keeps (List.map reading) rfl fun outside => ?_
    dsimp only
    split
    · exact hactor actor rfl
    · have hhurt := hactor _ (h actor (zoneHealth protectedActor damage actor)
        (if zoneHealth protectedActor damage actor = 0 then false else actor.alive)
        actor.eliminations)
      exact attempt_keeps (List.map reading) hhurt fun _ => hhurt

theorem applySafeZoneDamage_reading (h : IgnoresHarm reading) (actors : List (CombatActor R))
    (tick tickRate : UInt32) :
    (applySafeZoneDamage actors tick tickRate).1.map reading = actors.map reading := by
  unfold applySafeZoneDamage
  refine attempt_keeps (List.map reading) rfl fun damage => ?_
  split
  · rfl
  refine attempt_keeps (List.map reading) rfl fun zone => ?_
  refine attempt_keeps (List.map reading) rfl fun ranks => ?_
  refine attempt_keeps (List.map reading) rfl fun survivors => ?_
  refine attempt_keeps (List.map reading) rfl fun protectedActor => ?_
  exact hurtOutside_reading h zone tick damage protectedActor actors

/-! ## Loot -/

omit [Precision R] in
theorem pickUp_reading (hharm : IgnoresHarm reading) (hweapon : IgnoresWeapon reading)
    (actor : CombatActor R) (item : LootItem R) :
    reading (pickUp actor item).1 = reading actor := by
  unfold pickUp
  cases item.type with
  | rifle => exact hweapon actor _
  | arcPulse => exact hweapon actor _
  | medKit => exact hharm actor _ actor.alive actor.eliminations

theorem resolveNearestLootPickup_reading (hharm : IgnoresHarm reading)
    (hweapon : IgnoresWeapon reading) {actor : CombatActor R} {loot : List (LootItem R)}
    {pickupRadius : R} {pickup : Pickup R}
    (h : resolveNearestLootPickup actor loot pickupRadius = .ok pickup) :
    reading pickup.actor = reading actor := by
  obtain ⟨-, h⟩ := throwIf_bind_eq_ok.mp h
  obtain ⟨-, h⟩ := throwIf_bind_eq_ok.mp h
  obtain ⟨⟨⟩, -, h⟩ := except_bind_eq_ok.mp h
  split at h
  · obtain rfl := Except.ok.inj h
    rfl
  · obtain rfl := Except.ok.inj h
    cases nearestLoot actor loot pickupRadius with
    | none => rfl
    | some item => exact pickUp_reading hharm hweapon actor item

namespace OfflineMatch

theorem pickUpLoot_reading (hharm : IgnoresHarm reading) (hweapon : IgnoresWeapon reading)
    (tick : UInt32) (pickupRadius : R) (actors : List (CombatActor R))
    (loot : List (LootItem R)) :
    (pickUpLoot tick pickupRadius actors loot).1.1.map reading = actors.map reading := by
  induction actors generalizing loot with
  | nil => rfl
  | cons actor actors ih =>
    rw [pickUpLoot]
    split
    · dsimp only
      rw [List.map_cons, List.map_cons, ih]
    refine attempt_object (P := fun picked : List (CombatActor R) × List (LootItem R) =>
      picked.1.map reading = (actor :: actors).map reading) rfl fun pickup hpickup => ?_
    have hpicked : (pickup.actor ::
        (pickUpLoot tick pickupRadius actors pickup.loot).1.1).map reading =
          (actor :: actors).map reading := by
      rw [List.map_cons, List.map_cons, ih,
        resolveNearestLootPickup_reading hharm hweapon hpickup]
    exact attempt_keeps (fun picked : List (CombatActor R) × List (LootItem R) =>
      picked.1.map reading) hpicked fun _ => hpicked

/-! ## The phases -/

theorem started_reading (h : IgnoresHarm reading) (game : OfflineMatch R) (ids : List ActorId) :
    (game.beginTick.disconnect ids).actors.map reading = game.actors.map reading := by
  refine map_reading fun actor => ?_
  unfold disconnectActor
  split
  · exact h actor _ _ actor.eliminations
  · rfl

theorem setDestinations_actors (game : OfflineMatch R) (commands : List (MatchCommand R)) :
    (game.setDestinations commands).1.actors = game.actors := by
  induction commands generalizing game with
  | nil => rfl
  | cons command commands ih =>
    rw [setDestinations]
    split
    · exact ih game
    · split
      · rfl
      · refine attempt_keeps actors rfl fun accepted => ?_
        split
        · exact ih _
        · rfl

theorem collectLoot_reading (hharm : IgnoresHarm reading) (hweapon : IgnoresWeapon reading)
    (game : OfflineMatch R) :
    game.collectLoot.1.actors.map reading = game.actors.map reading :=
  pickUpLoot_reading hharm hweapon _ _ game.actors game.loot

theorem fight_reading (hharm : IgnoresHarm reading) (hcooldown : IgnoresCooldown reading)
    (game : OfflineMatch R) (commands : List (MatchCommand R)) :
    (game.fight commands).1.actors.map reading = game.actors.map reading := by
  unfold fight
  refine attempt_object (P := fun fought => (actors fought).map reading =
    game.actors.map reading) rfl fun ticked hticked => ?_
  have hcooled := tickWeaponCooldowns_reading hcooldown hticked
  refine attempt_keeps (fun fought => (actors fought).map reading) hcooled fun ranks => ?_
  have hresolved := (resolveAttacks_reading hharm hcooldown ticked
    (attackIntents commands)).trans hcooled
  refine attempt_keeps (fun fought => (actors fought).map reading) hresolved
    fun resolution => ?_
  have hpreserved := (preserveCombatWipe_reading hharm _ ranks resolution).trans hresolved
  exact attempt_keeps (fun fought => (actors fought).map reading) hpreserved
    fun _ => hpreserved

theorem shrinkZone_reading (h : IgnoresHarm reading) (game : OfflineMatch R) :
    game.shrinkZone.1.actors.map reading = game.actors.map reading :=
  applySafeZoneDamage_reading h game.actors _ _

theorem conclude_reading (h : IgnoresHarm reading) (game : OfflineMatch R) :
    game.conclude.1.actors.map reading = game.actors.map reading := by
  unfold conclude
  dsimp only
  split
  · rfl
  split
  · exact attempt_keeps (fun concluded => (actors concluded).map reading) rfl fun winner => rfl
  split
  · refine attempt_keeps (fun concluded => (actors concluded).map reading) rfl fun winner => ?_
    refine map_reading fun actor => ?_
    unfold limitActor
    split
    · rfl
    · split
      · exact h actor _ actor.alive actor.eliminations
      · exact h actor _ _ actor.eliminations
  · rfl

end OfflineMatch

end Phases

end SurvivalArena
