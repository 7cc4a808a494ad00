import SurvivalArena.Simulation.ActorReadings
import SurvivalArena.Simulation.CombatBooks

/-!
# The health of the actors

Every phase of a tick keeps the health of each actor in its range and in agreement with its
being alive, also where the phase throws.
-/

namespace SurvivalArena

variable {R : Type}

def AllHealthy (actors : List (CombatActor R)) : Prop :=
  ∀ actor ∈ actors, Healthy actor

/-- What the health of an actor is read from. -/
def CombatActor.vitals (actor : CombatActor R) : Int × Bool :=
  (actor.health, actor.alive)

theorem Healthy.congr {before after : CombatActor R} (h : Healthy before)
    (hsame : after.vitals = before.vitals) : Healthy after := by
  obtain ⟨hhealth, halive⟩ := Prod.mk.inj hsame
  exact ⟨hhealth ▸ h.nonneg, hhealth ▸ h.le, by rw [hhealth, halive]; exact h.alive⟩

theorem AllHealthy.congr {before after : List (CombatActor R)} (h : AllHealthy before)
    (hsame : after.map CombatActor.vitals = before.map CombatActor.vitals) :
    AllHealthy after := by
  intro actor hactor
  obtain ⟨other, hother, hvitals⟩ := Aligned.mem_right (Aligned.of_map_eq hsame).flip hactor
  exact (h other hother).congr hvitals

/-- A change that keeps the actors healthy. -/
theorem AllHealthy.map {actors : List (CombatActor R)} {change : CombatActor R → CombatActor R}
    (h : ∀ actor ∈ actors, Healthy (change actor)) : AllHealthy (actors.map change) := by
  intro actor hactor
  obtain ⟨before, hbefore, rfl⟩ := List.mem_map.mp hactor
  exact h before hbefore

/-- An actor that is left with a health of one. -/
theorem healthy_one {actor : CombatActor R} (hhealth : actor.health = 1)
    (halive : actor.alive = true) : Healthy actor :=
  ⟨by rw [hhealth]; decide, by rw [hhealth]; decide, iff_of_true halive (by rw [hhealth]; decide)⟩

/-- An actor that is out. -/
theorem healthy_gone {actor : CombatActor R} (hhealth : actor.health = 0)
    (halive : actor.alive = false) : Healthy actor :=
  ⟨hhealth.ge, by rw [hhealth]; decide, by rw [hhealth, halive]; decide⟩

theorem updateActor_healthy {actors : List (CombatActor R)} (h : AllHealthy actors)
    {id : ActorId} {change : CombatActor R → CombatActor R}
    (hchange : ∀ actor ∈ actors, actor.id = id → Healthy (change actor)) :
    AllHealthy (updateActor actors id change) := by
  apply AllHealthy.map
  intro actor hactor
  split
  next hid => exact hchange actor hactor hid
  next => exact h actor hactor

theorem vitals_ignoresCooldown : IgnoresCooldown (CombatActor.vitals (R := R)) :=
  fun _ _ => rfl

theorem Distinct.congr {before after : List (CombatActor R)} (h : Distinct before)
    (hsame : after.map CombatActor.id = before.map CombatActor.id) : Distinct after := by
  unfold Distinct
  rw [hsame]
  exact h

/-! ## Combat -/

/-- A target loses at most the health that it has. -/
theorem hurt_healthy {actor : CombatActor R} (h : Healthy actor) {damage : Int}
    (hdamage : 0 ≤ damage) : Healthy (hurt (min actor.health damage) actor) := by
  have hnonneg := h.nonneg
  have hle := h.le
  unfold hurt
  by_cases hdead : actor.health - min actor.health damage = 0
  · rw [if_pos hdead]
    exact healthy_gone hdead rfl
  · rw [if_neg hdead]
    refine ⟨?_, ?_, ?_⟩
    · dsimp only
      omega
    · dsimp only
      omega
    · rw [h.alive]
      dsimp only
      omega

theorem contributionsTo_nonneg {contributions : List (ActorId × DamageContribution)}
    (h : ∀ contribution ∈ contributions, 0 < contribution.2.amount) (target : ActorId) :
    0 ≤ ((contributionsTo contributions target).map DamageContribution.amount).sum := by
  apply List.sum_nonneg
  intro amount hamount
  obtain ⟨given, hgiven, rfl⟩ := List.mem_map.mp hamount
  obtain ⟨contribution, hcontribution, rfl⟩ := List.mem_map.mp hgiven
  exact (h contribution (List.mem_of_mem_filter hcontribution)).le

theorem applyContributions_healthy {contributions : List (ActorId × DamageContribution)}
    (hfair : ∀ contribution ∈ contributions, 0 < contribution.2.amount) (ids : List ActorId)
    {actors : List (CombatActor R)} (hdistinct : Distinct actors) (h : AllHealthy actors)
    (resolution : CombatResolution) :
    AllHealthy (applyContributions contributions ids actors resolution).1 := by
  induction ids generalizing actors resolution with
  | nil => exact h
  | cons id ids ih =>
    rw [applyContributions]
    split
    · exact ih hdistinct h resolution
    next target hfound =>
      obtain ⟨htarget, rfl⟩ := findActor_mem hfound
      dsimp only
      split
      · exact h
      · refine attempt_object (P := AllHealthy) h fun source _ => ih ?_ ?_ _
        · exact hdistinct.congr (updateActor_reading actors target.id fun _ => rfl)
        · refine updateActor_healthy h fun actor hactor hid => ?_
          rw [hdistinct.eq_of_id hactor htarget hid]
          exact hurt_healthy (h target htarget) (contributionsTo_nonneg hfair target.id)

theorem creditKills_vitals (deaths : List DeathRecord) (actors : List (CombatActor R)) :
    (creditKills deaths actors).1.map CombatActor.vitals = actors.map CombatActor.vitals := by
  induction deaths generalizing actors with
  | nil => rfl
  | cons death deaths ih =>
    rw [creditKills]
    split
    · exact ih actors
    · split
      · rfl
      · exact (ih _).trans (updateActor_reading actors _ fun _ => rfl)

theorem revokeKill_vitals {actors revoked : List (CombatActor R)} {death : DeathRecord}
    (h : revokeKill actors death = .ok revoked) :
    revoked.map CombatActor.vitals = actors.map CombatActor.vitals := by
  unfold revokeKill at h
  split at h
  · obtain rfl := Except.ok.inj h
    rfl
  split at h
  · cases h
  split at h
  · cases h
  · obtain rfl := Except.ok.inj h
    exact updateActor_reading actors _ fun _ => rfl

theorem preserveCombatWipe_healthy {actors : List (CombatActor R)} (h : AllHealthy actors)
    (preCombatRanks : List ContenderRankInput) (resolution : CombatResolution) :
    AllHealthy (preserveCombatWipe actors preCombatRanks resolution).1 := by
  unfold preserveCombatWipe
  split
  · exact h
  refine attempt_object (P := AllHealthy) h fun protectedActor _ => ?_
  split
  · exact h
  split
  · exact h
  refine attempt_object (P := AllHealthy) h fun revoked hrevoked => ?_
  have hhealthy := h.congr (revokeKill_vitals hrevoked)
  split
  · exact updateActor_healthy hhealthy fun _ _ _ => healthy_one rfl rfl
  · exact hhealthy

section Phases

variable [Precision R]

theorem startCooldowns_reading {γ : Type} {reading : CombatActor R → γ}
    (h : IgnoresCooldown reading) (intents : List AttackIntent) (actors : List (CombatActor R)) :
    (intents.foldl (fun actors intent => updateActor actors intent.attacker startCooldown)
      actors).map reading = actors.map reading := by
  refine Aligned.map_eq (fun before after hcooled => ?_) (startCooldowns_cooled intents actors)
  rw [hcooled]
  exact h before _

theorem resolveAttacks_healthy {actors : List (CombatActor R)} (hdistinct : Distinct actors)
    (h : AllHealthy actors) (intents : List AttackIntent) :
    AllHealthy (resolveAttacks actors intents).1 := by
  unfold resolveAttacks
  refine attempt_object (P := AllHealthy) h fun attacks hattacks => ?_
  have hfair := declareAttacks_fair hattacks
  have hcharged := h.congr
    (startCooldowns_reading vitals_ignoresCooldown attacks.acceptedIntents actors)
  have hchargedIds := hdistinct.congr
    (startCooldowns_reading (fun _ _ => rfl) attacks.acceptedIntents actors)
  have hstruck := applyContributions_healthy
    (fun contribution hcontribution => (hfair contribution hcontribution).amount)
    (targetsOf attacks.contributions) hchargedIds hcharged
    { acceptedIntents := attacks.acceptedIntents }
  dsimp only
  refine attempt_object (P := AllHealthy) hstruck fun resolution _ => ?_
  have hcredited := hstruck.congr (creditKills_vitals resolution.deaths _)
  exact attempt_object (P := AllHealthy) hcredited fun _ _ => hcredited

/-! ## The safe zone -/

theorem hurtOutside_healthy {zone : SafeZoneState R} {tick : UInt32} {damage : Int}
    (hdamage : 0 ≤ damage) {protectedActor : Option ActorId} {actors : List (CombatActor R)}
    (h : AllHealthy actors) :
    AllHealthy (hurtOutside zone tick damage protectedActor actors).1 := by
  induction actors with
  | nil => exact h
  | cons actor actors ih =>
    obtain ⟨hactor, hothers⟩ := List.forall_mem_cons.mp h
    have hlater := ih hothers
    rw [hurtOutside]
    split
    · exact List.forall_mem_cons.mpr ⟨hactor, hlater⟩
    next halive =>
      refine attempt_object (P := AllHealthy) h fun outside _ => ?_
      dsimp only
      split
      · exact List.forall_mem_cons.mpr ⟨hactor, hlater⟩
      · have hliving : actor.alive = true := by simpa using halive
        obtain ⟨hnonneg, hle⟩ := zoneHealth_bounds hactor hliving hdamage protectedActor
        have hhurt := List.forall_mem_cons.mpr
          ⟨hurtByZone_healthy hactor hliving hnonneg hle, hlater⟩
        exact attempt_object (P := AllHealthy) hhurt fun _ _ => hhurt

theorem applySafeZoneDamage_healthy {actors : List (CombatActor R)} (h : AllHealthy actors)
    (tick tickRate : UInt32) : AllHealthy (applySafeZoneDamage actors tick tickRate).1 := by
  unfold applySafeZoneDamage
  refine attempt_object (P := AllHealthy) h fun damage hdamage => ?_
  split
  · exact h
  refine attempt_object (P := AllHealthy) h fun zone _ => ?_
  refine attempt_object (P := AllHealthy) h fun ranks _ => ?_
  refine attempt_object (P := AllHealthy) h fun survivors _ => ?_
  refine attempt_object (P := AllHealthy) h fun protectedActor _ => ?_
  exact hurtOutside_healthy (safeZoneDamageForTick_nonneg hdamage) h

/-! ## Loot and movement -/

namespace OfflineMatch

theorem pickUpLoot_healthy {tick : UInt32} {pickupRadius : R} {actors : List (CombatActor R)}
    (h : AllHealthy actors) (loot : List (LootItem R)) :
    AllHealthy (pickUpLoot tick pickupRadius actors loot).1.1 := by
  induction actors generalizing loot with
  | nil => exact h
  | cons actor actors ih =>
    obtain ⟨hactor, hothers⟩ := List.forall_mem_cons.mp h
    rw [pickUpLoot]
    split
    · exact List.forall_mem_cons.mpr ⟨hactor, ih hothers loot⟩
    next hcontends =>
      refine attempt_object (P := fun picked : List (CombatActor R) × List (LootItem R) =>
        AllHealthy picked.1) h fun pickup hpickup => ?_
      have hcontending : actor.contends = true := by simpa using hcontends
      have hpicked : Healthy pickup.actor := by
        rcases resolveNearestLootPickup_returned hcontending hpickup with rfl | ⟨item, -, -, rfl⟩
        · exact hactor
        · exact (pickUp_healthy hactor hcontending item).1
      have hall := List.forall_mem_cons.mpr ⟨hpicked, ih hothers pickup.loot⟩
      exact attempt_object (P := fun picked : List (CombatActor R) × List (LootItem R) =>
        AllHealthy picked.1) hall fun _ _ => hall

theorem moveActors_vitals (tickSeconds : R) (actors : List (CombatActor R))
    (agents : List (NavAgent R)) :
    (moveActors tickSeconds actors agents).1.1.map CombatActor.vitals =
      actors.map CombatActor.vitals := by
  induction actors generalizing agents with
  | nil => rw [moveActors.eq_def]
  | cons actor actors ih =>
    cases agents with
    | nil => rfl
    | cons agent agents =>
      rw [moveActors]
      split
      · dsimp only
        rw [List.map_cons, List.map_cons, ih]
      · refine attempt_keeps (fun moved : List (CombatActor R) × List (NavAgent R) =>
          moved.1.map CombatActor.vitals) rfl fun _ => ?_
        dsimp only
        rw [List.map_cons, List.map_cons, ih]
        rfl

/-! ## The phases -/

theorem collectLoot_healthy {game : OfflineMatch R} (h : AllHealthy game.actors) :
    AllHealthy game.collectLoot.1.actors :=
  pickUpLoot_healthy h game.loot

theorem fight_healthy {game : OfflineMatch R} (hdistinct : Distinct game.actors)
    (h : AllHealthy game.actors) (commands : List (MatchCommand R)) :
    AllHealthy (game.fight commands).1.actors := by
  unfold fight
  refine attempt_object (P := fun fought => AllHealthy (actors fought)) h fun ticked hticked => ?_
  have hcooled := h.congr (tickWeaponCooldowns_reading vitals_ignoresCooldown hticked)
  have hids := hdistinct.congr (tickWeaponCooldowns_reading (fun _ _ => rfl) hticked)
  refine attempt_object (P := fun fought => AllHealthy (actors fought)) hcooled fun ranks _ => ?_
  have hresolved := resolveAttacks_healthy hids hcooled (attackIntents commands)
  refine attempt_object (P := fun fought => AllHealthy (actors fought)) hresolved
    fun resolution _ => ?_
  have hpreserved := preserveCombatWipe_healthy hresolved ranks resolution
  exact attempt_object (P := fun fought => AllHealthy (actors fought)) hpreserved
    fun _ _ => hpreserved

theorem shrinkZone_healthy {game : OfflineMatch R} (h : AllHealthy game.actors) :
    AllHealthy game.shrinkZone.1.actors :=
  applySafeZoneDamage_healthy h _ _

omit [Precision R] in
theorem limitActor_healthy {actor : CombatActor R} (h : Healthy actor) (winner : ActorId) :
    Healthy (limitActor winner actor) := by
  unfold limitActor
  split
  · exact h
  next hcontends =>
    have halive : actor.alive = true := by
      simp only [Bool.not_eq_true', Bool.not_eq_false, CombatActor.contends,
        Bool.and_eq_true] at hcontends
      exact hcontends.2
    split
    · exact healthy_one rfl halive
    · exact healthy_gone rfl rfl

theorem conclude_healthy {game : OfflineMatch R} (h : AllHealthy game.actors) :
    AllHealthy game.conclude.1.actors := by
  unfold conclude
  dsimp only
  split
  · exact h
  split
  · exact attempt_object (P := fun concluded => AllHealthy (actors concluded)) h fun _ _ => h
  split
  · refine attempt_object (P := fun concluded => AllHealthy (actors concluded)) h
      fun winner _ => ?_
    exact AllHealthy.map fun actor hactor => limitActor_healthy (h actor hactor) winner
  · exact h

end OfflineMatch

end Phases

end SurvivalArena
