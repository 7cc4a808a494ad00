import SurvivalArena.Simulation.ActorReadings
import SurvivalArena.Simulation.SimultaneousCombat

/-!
# The rate of fire

The cooldown of an actor falls by one a tick at most, and only an attacker whose cooldown
has run out strikes.  So the attacks of an actor are as far apart as its weapons ask.
-/

namespace SurvivalArena

open KeyedList

variable {R : Type}

/-! ## What leaves the cooldown alone -/

/-- The actor keeps its number and its cooldown. -/
def KeepsCooldown (before after : CombatActor R) : Prop :=
  after.id = before.id ∧ after.cooldownTicksRemaining = before.cooldownTicksRemaining

abbrev KeepCooldowns (before after : List (CombatActor R)) : Prop :=
  List.Forall₂ KeepsCooldown before after

theorem KeepCooldowns.refl (actors : List (CombatActor R)) : KeepCooldowns actors actors :=
  List.forall₂_same.mpr fun _ _ => ⟨rfl, rfl⟩

theorem KeepCooldowns.trans {first second third : List (CombatActor R)}
    (h : KeepCooldowns first second) (h' : KeepCooldowns second third) :
    KeepCooldowns first third :=
  Aligned.compose (fun _ _ _ hfirst hsecond =>
    ⟨hsecond.1.trans hfirst.1, hsecond.2.trans hfirst.2⟩) h h'

theorem KeepCooldowns.of_reading {before after : List (CombatActor R)}
    (h : after.map (fun actor => (actor.id, actor.cooldownTicksRemaining)) =
      before.map fun actor => (actor.id, actor.cooldownTicksRemaining)) :
    KeepCooldowns before after :=
  (Aligned.of_map_eq h).flip.imp fun _ _ hsame => Prod.mk.inj hsame

theorem cooldown_ignoresHarm : IgnoresHarm fun actor : CombatActor R =>
    (actor.id, actor.cooldownTicksRemaining) :=
  fun _ _ _ _ => rfl

theorem cooldown_ignoresWeapon : IgnoresWeapon fun actor : CombatActor R =>
    (actor.id, actor.cooldownTicksRemaining) :=
  fun _ _ => rfl

section Phases

variable [Precision R]

/-! ## The attacks that are accepted -/

/-- An attack that took place, and the weapon it was made with. -/
structure AcceptedAttack where
  tick : UInt32
  attacker : ActorId
  weapon : WeaponType
deriving DecidableEq

/-- What follows an outcome that is not an exception. -/
def ifReturns {α β : Type} (outcome : Except Exception α) (rest : α → List β) : List β :=
  outcome.toOption.elim [] rest

/-- The attackers among the actors whose attacks are accepted, and their weapons. -/
def strikers (actors : List (CombatActor R)) (intents : List AttackIntent) :
    List (ActorId × WeaponType) :=
  ifReturns (declareAttacks actors intents) fun attacks =>
    attacks.acceptedIntents.filterMap fun intent =>
      (findActor actors intent.attacker).map fun attacker => (attacker.id, attacker.weapon)

/-! ## What the combat does to the cooldowns -/

/-- The ticks that an attack with a weapon costs. -/
def cooldownOf (R : Type) [Scalar R] (weapon : WeaponType) : UInt32 :=
  (weaponDefinitionFor weapon : WeaponDefinition R).cooldownTicks

/-- The cooldown falls by one at most, and an actor that strikes has none left and then that
of its weapon. -/
structure Fires (shots : List (ActorId × WeaponType)) (fall : Nat)
    (before after : CombatActor R) : Prop where
  id : after.id = before.id
  slow : before.cooldownTicksRemaining.toNat ≤ after.cooldownTicksRemaining.toNat + fall
  fired : ∀ weapon, (before.id, weapon) ∈ shots →
    before.cooldownTicksRemaining.toNat ≤ fall ∧
      after.cooldownTicksRemaining = cooldownOf R weapon

theorem KeepsCooldown.fires {before after : CombatActor R} (h : KeepsCooldown before after)
    (fall : Nat) : Fires [] fall before after :=
  ⟨h.1, by rw [h.2]; exact Nat.le_add_right _ _, nofun⟩

theorem Fires.keeps {shots : List (ActorId × WeaponType)} {fall : Nat}
    {before between after : CombatActor R} (h : Fires shots fall before between)
    (h' : KeepsCooldown between after) : Fires shots fall before after :=
  ⟨h'.1.trans h.id, by rw [h'.2]; exact h.slow, fun weapon hweapon => by
    rw [h'.2]
    exact h.fired weapon hweapon⟩

theorem Fires.after_keeps {shots : List (ActorId × WeaponType)} {fall : Nat}
    {before between after : CombatActor R} (h : KeepsCooldown before between)
    (h' : Fires shots fall between after) : Fires shots fall before after :=
  ⟨h'.id.trans h.1, by rw [← h.2]; exact h'.slow, fun weapon hweapon => by
    rw [← h.2]
    exact h'.fired weapon (h.1 ▸ hweapon)⟩

/-- What starting the cooldowns of the attackers does. -/
theorem startCooldowns_charge (intents : List AttackIntent) (actors : List (CombatActor R)) :
    List.Forall₂ (fun before after => after.id = before.id ∧ after.weapon = before.weapon ∧
      after.cooldownTicksRemaining = if before.id ∈ intents.map AttackIntent.attacker then
        cooldownOf R before.weapon else before.cooldownTicksRemaining) actors
      (intents.foldl (fun actors intent =>
        updateActor actors intent.attacker startCooldown) actors) := by
  induction intents generalizing actors with
  | nil => exact List.forall₂_same.mpr fun _ _ => ⟨rfl, rfl, rfl⟩
  | cons intent intents ih =>
    refine Aligned.compose (R := fun before after => after = if before.id = intent.attacker then
      startCooldown before else before) ?_ (Aligned.map fun _ _ => rfl) (ih _)
    rintro before between after rfl ⟨hid, hweapon, hcooldown⟩
    by_cases hown : before.id = intent.attacker
    · rw [if_pos hown] at hid hweapon hcooldown
      have hin : before.id ∈ (intent :: intents).map AttackIntent.attacker := by
        rw [hown]
        exact List.mem_cons_self
      refine ⟨hid, hweapon, ?_⟩
      rw [hcooldown, if_pos hin]
      split <;> rfl
    · rw [if_neg hown] at hid hweapon hcooldown
      refine ⟨hid, hweapon, hcooldown.trans (if_congr ?_ rfl rfl)⟩
      rw [List.map_cons, List.mem_cons]
      exact (or_iff_right hown).symm

/-- An accepted attacker has no cooldown left. -/
theorem accepted_ready {actors : List (CombatActor R)} {intents : List AttackIntent}
    {attacks : Attacks} (h : declareAttacks actors intents = .ok attacks)
    {intent : AttackIntent} (hintent : intent ∈ attacks.acceptedIntents) :
    ∃ attacker, findActor actors intent.attacker = some attacker ∧
      attacker.cooldownTicksRemaining = 0 := by
  rw [(declareAttacks_declared h).1] at hintent
  obtain ⟨-, haccepts⟩ := List.mem_filter.mp hintent
  unfold accepts at haccepts
  split at haccepts
  next attacker target hattacker htarget =>
    simp only [Bool.and_eq_true, beq_iff_eq] at haccepts
    exact ⟨attacker, hattacker, haccepts.1.1.2⟩
  next => cases haccepts

theorem declareAttacks_distinct {actors : List (CombatActor R)} {intents : List AttackIntent}
    {attacks : Attacks} (h : declareAttacks actors intents = .ok attacks) : Distinct actors := by
  obtain ⟨⟨⟩, hvalid, -⟩ := except_bind_eq_ok.mp h
  exact (validateActors_eq_ok.mp hvalid).2.2

theorem mem_strikers {actors : List (CombatActor R)} {intents : List AttackIntent}
    {striker : ActorId × WeaponType} (h : striker ∈ strikers actors intents) :
    ∃ attacks, declareAttacks actors intents = .ok attacks ∧
      ∃ intent ∈ attacks.acceptedIntents, ∃ attacker ∈ actors,
        attacker.id = intent.attacker ∧ striker = (attacker.id, attacker.weapon) := by
  unfold strikers ifReturns at h
  cases hattacks : declareAttacks actors intents with
  | error e =>
    rw [hattacks] at h
    cases h
  | ok attacks =>
    rw [hattacks] at h
    obtain ⟨intent, hintent, hfound⟩ := List.mem_filterMap.mp h
    obtain ⟨attacker, hattacker, rfl⟩ := Option.map_eq_some_iff.mp hfound
    obtain ⟨hmem, hid⟩ := findActor_mem hattacker
    exact ⟨attacks, rfl, intent, hintent, attacker, hmem, hid, rfl⟩

theorem resolveAttacks_fires (actors : List (CombatActor R)) (intents : List AttackIntent) :
    List.Forall₂ (Fires (strikers actors intents) 0) actors (resolveAttacks actors intents).1 := by
  cases hattacks : declareAttacks actors intents with
  | error e =>
    have hnone : strikers actors intents = [] := by
      rw [strikers, hattacks]
      rfl
    rw [resolveAttacks, hattacks, attempt_error, hnone]
    exact List.forall₂_same.mpr fun _ _ => KeepsCooldown.fires ⟨rfl, rfl⟩ 0
  | ok attacks =>
    have hdistinct := declareAttacks_distinct hattacks
    have hcharged : List.Forall₂ (Fires (strikers actors intents) 0) actors
        (attacks.acceptedIntents.foldl (fun actors intent =>
          updateActor actors intent.attacker startCooldown) actors) := by
      refine Aligned.imp_mem (startCooldowns_charge attacks.acceptedIntents actors) ?_
      rintro before hbefore after ⟨hid, -, hcooldown⟩
      have hready : ∀ intent ∈ attacks.acceptedIntents, intent.attacker = before.id →
          before.cooldownTicksRemaining = 0 := by
        intro intent hintent hsame
        obtain ⟨attacker, hattacker, hready⟩ := accepted_ready hattacks hintent
        rw [hsame, findActor_eq_some hdistinct hbefore] at hattacker
        rw [Option.some.inj hattacker]
        exact hready
      refine ⟨hid, ?_, fun weapon hweapon => ?_⟩
      · rw [hcooldown]
        split
        next hattacks =>
          obtain ⟨intent, hintent, hsame⟩ := List.mem_map.mp hattacks
          rw [hready intent hintent hsame]
          exact Nat.zero_le _
        next => exact le_rfl
      · obtain ⟨attacks', hattacks', intent, hintent, attacker, hattacker, hsame, hstriker⟩ :=
          mem_strikers hweapon
        obtain rfl := Except.ok.inj (hattacks.symm.trans hattacks')
        obtain ⟨hattackerId, rfl⟩ := Prod.mk.inj hstriker
        obtain rfl := hdistinct.eq_of_id hbefore hattacker hattackerId
        rw [hready intent hintent hsame.symm, hcooldown,
          if_pos (List.mem_map.mpr ⟨intent, hintent, hsame.symm⟩)]
        exact ⟨le_rfl, rfl⟩
    have hstruck := KeepCooldowns.of_reading (applyContributions_reading cooldown_ignoresHarm
      attacks.contributions (targetsOf attacks.contributions)
      (attacks.acceptedIntents.foldl (fun actors intent =>
        updateActor actors intent.attacker startCooldown) actors)
      { acceptedIntents := attacks.acceptedIntents })
    have hfires := Aligned.compose (fun _ _ _ hfirst hsecond => hfirst.keeps hsecond) hcharged
      hstruck
    rw [resolveAttacks, hattacks, attempt_ok]
    refine attempt_object (P := List.Forall₂ (Fires (strikers actors intents) 0) actors) hfires
      fun resolution _ => ?_
    have hcredited := Aligned.compose (fun _ _ _ hfirst hsecond => hfirst.keeps hsecond) hfires
      (KeepCooldowns.of_reading (creditKills_reading cooldown_ignoresHarm resolution.deaths _))
    exact attempt_object (P := List.Forall₂ (Fires (strikers actors intents) 0) actors) hcredited
      fun _ _ => hcredited

theorem tickWeaponCooldowns_slow {actors actors' : List (CombatActor R)}
    (h : tickWeaponCooldowns actors = .ok actors') :
    List.Forall₂ (fun before after => after.id = before.id ∧
      before.cooldownTicksRemaining.toNat ≤ after.cooldownTicksRemaining.toNat + 1 ∧
      (after.cooldownTicksRemaining.toNat = 0 → before.cooldownTicksRemaining.toNat ≤ 1))
      actors actors' := by
  obtain ⟨⟨⟩, -, h⟩ := except_bind_eq_ok.mp h
  obtain rfl := Except.ok.inj h
  refine Aligned.map fun actor _ => ?_
  split
  next hpositive =>
    have hone : (1 : UInt32) ≤ actor.cooldownTicksRemaining := by
      rw [UInt32.le_iff_toNat_le]
      exact UInt32.lt_iff_toNat_lt.mp hpositive
    have hnat : (actor.cooldownTicksRemaining - 1).toNat =
        actor.cooldownTicksRemaining.toNat - 1 := UInt32.toNat_sub_of_le _ _ hone
    refine ⟨rfl, ?_, ?_⟩ <;> dsimp only <;> omega
  next => exact ⟨rfl, Nat.le_add_right _ _, by omega⟩

/-- The actors fire as the shots say, and nobody else does. -/
structure AllFire (shots : List (ActorId × WeaponType)) (before after : List (CombatActor R)) :
    Prop where
  each : List.Forall₂ (Fires shots 1) before after
  known : ∀ shot ∈ shots, ∃ actor ∈ before, actor.id = shot.1

theorem KeepCooldowns.allFire {before after : List (CombatActor R)}
    (h : KeepCooldowns before after) : AllFire [] before after :=
  ⟨h.imp fun _ _ hpair => KeepsCooldown.fires hpair 1, nofun⟩

theorem AllFire.keeps {shots : List (ActorId × WeaponType)}
    {before between after : List (CombatActor R)} (h : AllFire shots before between)
    (h' : KeepCooldowns between after) : AllFire shots before after :=
  ⟨Aligned.compose (fun _ _ _ hfirst hsecond => hfirst.keeps hsecond) h.each h', h.known⟩

theorem AllFire.after_keeps {shots : List (ActorId × WeaponType)}
    {before between after : List (CombatActor R)} (h : KeepCooldowns before between)
    (h' : AllFire shots between after) : AllFire shots before after := by
  refine ⟨Aligned.compose (fun _ _ _ hfirst hsecond => hsecond.after_keeps hfirst) h h'.each,
    fun shot hshot => ?_⟩
  obtain ⟨between, hbetween, hid⟩ := h'.known shot hshot
  obtain ⟨before, hbefore, hpair⟩ := Aligned.mem_right h hbetween
  exact ⟨before, hbefore, hpair.1.symm.trans hid⟩

/-- No shot before an exception. -/
theorem AllFire.attempt {α β : Type} {before : List (CombatActor R)} {object : OfflineMatch R}
    {step : Except Exception α} {next : α → OfflineMatch R × Except Exception β}
    {shots : α → List (ActorId × WeaponType)} (hobject : AllFire [] before object.actors)
    (hnext : ∀ a, AllFire (shots a) before (next a).1.actors) :
    AllFire (ifReturns step shots) before (attempt object step next).1.actors := by
  cases step with
  | error e => exact hobject
  | ok a => exact hnext a

namespace OfflineMatch

/-! ## The phases of a step -/

theorem moveActors_keeps (tickSeconds : R) (actors : List (CombatActor R))
    (agents : List (NavAgent R)) :
    KeepCooldowns actors (moveActors tickSeconds actors agents).1.1 := by
  induction actors generalizing agents with
  | nil => exact .refl []
  | cons actor actors ih =>
    cases agents with
    | nil => exact .refl _
    | cons agent agents =>
      rw [moveActors]
      split
      · exact .cons ⟨rfl, rfl⟩ (ih agents)
      · refine attempt_object (P := fun moved => KeepCooldowns (actor :: actors) (Prod.fst moved))
          (.refl _) fun _ _ => ?_
        exact .cons ⟨rfl, rfl⟩ (ih agents)

/-! ## The shots of a step -/

def fightStrikers (game : OfflineMatch R) (commands : List (MatchCommand R)) :
    List (ActorId × WeaponType) :=
  ifReturns (tickWeaponCooldowns game.actors) fun actors =>
    ifReturns (buildContenderRanks actors) fun _ => strikers actors (attackIntents commands)

def resolveStrikers (game : OfflineMatch R) (commands : List (MatchCommand R)) :
    List (ActorId × WeaponType) :=
  let directed := game.setDestinations commands
  ifReturns directed.2 fun _ =>
    let moved := directed.1.move
    ifReturns moved.2 fun _ =>
      let collected := moved.1.collectLoot
      ifReturns collected.2 fun _ => collected.1.fightStrikers commands

/-- The attacks that a step accepts, also where it throws after its combat. -/
def acceptedAttacks (game : OfflineMatch R) : List AcceptedAttack :=
  if game.countsTick && decide (game.disconnecting.length < countAliveContenders game.actors) then
    ifReturns (game.started.selectCommands game.disconnecting game.queuedCommands)
      fun selection => (game.started.resolveStrikers selection.selected.values).map
        fun striker => { tick := game.tick + 1, attacker := striker.1, weapon := striker.2 }
  else []

def attacksOf (game : OfflineMatch R) : MatchCall R → List AcceptedAttack
  | .step => game.acceptedAttacks
  | _ => []

/-- The accepted attacks of a run. -/
def attacksAlong (game : OfflineMatch R) : List (MatchCall R) → List AcceptedAttack
  | [] => []
  | call :: calls => game.attacksOf call ++ (game.call call).1.attacksAlong calls

theorem fight_fires (game : OfflineMatch R) (commands : List (MatchCommand R)) :
    AllFire (game.fightStrikers commands) game.actors (game.fight commands).1.actors := by
  unfold fight fightStrikers
  cases hticked : tickWeaponCooldowns game.actors with
  | error e => exact KeepCooldowns.allFire (.refl game.actors)
  | ok ticked =>
    have hslow := tickWeaponCooldowns_slow hticked
    have hticking : AllFire [] game.actors ticked :=
      ⟨hslow.imp fun _ _ hpair => ⟨hpair.1, hpair.2.1, nofun⟩, nofun⟩
    show AllFire (ifReturns (buildContenderRanks ticked) _) _
      (attempt { game with actors := ticked } (buildContenderRanks ticked) _).1.actors
    refine AllFire.attempt hticking fun ranks => ?_
    have hfires : AllFire (strikers ticked (attackIntents commands)) game.actors
        (resolveAttacks ticked (attackIntents commands)).1 := by
      constructor
      · refine Aligned.compose (fun before between after hpair hresolved => ?_) hslow
          (resolveAttacks_fires ticked (attackIntents commands))
        obtain ⟨hid, hfall, hready⟩ := hpair
        have hkept := hresolved.slow
        refine ⟨hresolved.id.trans hid, by omega, fun weapon hweapon => ?_⟩
        obtain ⟨hzero, hafter⟩ := hresolved.fired weapon (hid ▸ hweapon)
        exact ⟨hready (Nat.le_zero.mp hzero), hafter⟩
      · intro shot hshot
        obtain ⟨-, -, -, -, attacker, hattacker, -, rfl⟩ := mem_strikers hshot
        obtain ⟨before, hbefore, hid, -⟩ := Aligned.mem_right hslow hattacker
        exact ⟨before, hbefore, hid.symm⟩
    refine attempt_object (P := fun fought => AllFire (strikers ticked (attackIntents commands))
      game.actors (actors fought)) hfires fun resolution _ => ?_
    have hpreserved := hfires.keeps (KeepCooldowns.of_reading
      (preserveCombatWipe_reading cooldown_ignoresHarm _ ranks resolution))
    exact attempt_object (P := fun fought => AllFire (strikers ticked (attackIntents commands))
      game.actors (actors fought)) hpreserved fun _ _ => hpreserved

theorem resolve_fires (game : OfflineMatch R) (commands : List (MatchCommand R))
    (tickEvents : List MatchEvent) :
    AllFire (game.resolveStrikers commands) game.actors
      (game.resolve commands tickEvents).1.actors := by
  unfold resolve resolveStrikers
  dsimp only
  have hdirected : KeepCooldowns game.actors (game.setDestinations commands).1.actors := by
    rw [setDestinations_actors]
    exact .refl _
  generalize game.setDestinations commands = directed at hdirected ⊢
  refine AllFire.attempt hdirected.allFire fun _ => ?_
  have hmoved : KeepCooldowns game.actors directed.1.move.1.actors :=
    hdirected.trans (moveActors_keeps _ directed.1.actors directed.1.agents)
  generalize directed.1.move = moved at hmoved ⊢
  refine AllFire.attempt hmoved.allFire fun _ => ?_
  have hcollected : KeepCooldowns game.actors moved.1.collectLoot.1.actors :=
    hmoved.trans (.of_reading
      (collectLoot_reading cooldown_ignoresHarm cooldown_ignoresWeapon moved.1))
  generalize moved.1.collectLoot = collected at hcollected ⊢
  refine AllFire.attempt hcollected.allFire fun _ => ?_
  have hfought := (collected.1.fight_fires commands).after_keeps hcollected
  generalize collected.1.fightStrikers commands = shots at hfought ⊢
  generalize collected.1.fight commands = fought at hfought ⊢
  have hshrunk : AllFire shots game.actors fought.1.shrinkZone.1.actors :=
    hfought.keeps (.of_reading (shrinkZone_reading cooldown_ignoresHarm fought.1))
  generalize fought.1.shrinkZone = shrunk at hshrunk ⊢
  have hconcluded := hshrunk.keeps
    (.of_reading (conclude_reading cooldown_ignoresHarm shrunk.1))
  generalize shrunk.1.conclude = concluded at hconcluded ⊢
  refine attempt_object (P := fun final => AllFire shots game.actors (actors final)) hfought
    fun _ _ => ?_
  refine attempt_object (P := fun final => AllFire shots game.actors (actors final)) hshrunk
    fun _ _ => ?_
  exact attempt_object (P := fun final => AllFire shots game.actors (actors final)) hconcluded
    fun _ _ => hconcluded

/-- The shots of a step. -/
def stepStrikers (game : OfflineMatch R) : List (ActorId × WeaponType) :=
  game.acceptedAttacks.map fun attack => (attack.attacker, attack.weapon)

/-- The step lemma. -/
theorem step_fires (game : OfflineMatch R) :
    AllFire game.stepStrikers game.actors game.step.1.actors := by
  have hnone (h : game.acceptedAttacks = []) (hactors : KeepCooldowns game.actors
      game.step.1.actors) : AllFire game.stepStrikers game.actors game.step.1.actors := by
    rw [stepStrikers, h]
    exact hactors.allFire
  have hstarted : KeepCooldowns game.actors game.started.actors :=
    .of_reading (started_reading cooldown_ignoresHarm game _)
  cases hcounts : game.countsTick with
  | false =>
    refine hnone (by rw [acceptedAttacks, hcounts]; rfl) ?_
    rw [step_uncounted hcounts]
    exact .refl _
  | true =>
    have hcounted := hcounts
    simp only [countsTick, Bool.and_eq_true, bne_iff_ne, ne_eq, beq_iff_eq] at hcounted
    obtain ⟨⟨hactive, hcounted⟩, hpaired⟩ := hcounted
    unfold step stepImpl
    rw [if_neg (by simp [hactive]), if_neg hcounted, if_neg (not_not.mpr hpaired)]
    unfold stepStrikers acceptedAttacks
    rw [hcounts, Bool.true_and]
    dsimp only
    by_cases hrefused : countAliveContenders game.actors ≤ game.disconnecting.length
    · rw [if_pos hrefused, decide_eq_false (not_lt.mpr hrefused)]
      exact KeepCooldowns.allFire (.refl _)
    · rw [if_neg hrefused, decide_eq_true (not_le.mp hrefused), if_pos rfl]
      have hall (selection : CommandSelection R) :=
        (game.started.resolve_fires selection.selected.values
          (game.openingEvents selection)).after_keeps hstarted
      show AllFire _ _ (attempt game.started
        (game.started.selectCommands game.disconnecting game.queuedCommands) _).1.actors
      cases game.started.selectCommands game.disconnecting game.queuedCommands with
      | error e => exact hstarted.allFire
      | ok selection =>
        have hfires := hall selection
        show AllFire (List.map _ (List.map _ _)) _ _
        rw [List.map_map]
        have hid : ((fun attack : AcceptedAttack => (attack.attacker, attack.weapon)) ∘
            fun striker : ActorId × WeaponType =>
              { tick := game.tick + 1, attacker := striker.1, weapon := striker.2 }) = id := rfl
        rw [hid, List.map_id]
        exact hfires

/-! ## Runs -/

theorem mem_acceptedAttacks {game : OfflineMatch R} {attack : AcceptedAttack}
    (h : attack ∈ game.acceptedAttacks) :
    game.countsTick = true ∧ attack.tick = game.tick + 1 ∧
      (attack.attacker, attack.weapon) ∈ game.stepStrikers := by
  have hmem : (attack.attacker, attack.weapon) ∈ game.stepStrikers :=
    List.mem_map.mpr ⟨attack, h, rfl⟩
  unfold acceptedAttacks ifReturns at h
  split at h
  next hcounts =>
    cases hselected : game.started.selectCommands game.disconnecting game.queuedCommands with
    | error e =>
      rw [hselected] at h
      cases h
    | ok selection =>
      rw [hselected] at h
      obtain ⟨striker, -, rfl⟩ := List.mem_map.mp h
      exact ⟨(Bool.and_eq_true_iff.mp hcounts).1, rfl, hmem⟩
  next => cases h

theorem tick_toNat_succ {game : OfflineMatch R} (h : game.countsTick = true) :
    (game.tick + 1).toNat = game.tick.toNat + 1 := by
  simp only [countsTick, Bool.and_eq_true, bne_iff_ne, ne_eq, beq_iff_eq] at h
  have hlast : game.tick.toNat ≠ 2 ^ 32 - 1 := fun hsame => h.1.2 (UInt32.toNat_inj.mp hsame)
  have hlimit := game.tick.toNat_lt
  rw [UInt32.toNat_add, UInt32.toNat_one]
  omega

/-- The cooldown that an attack started has not run out faster than the ticks went by. -/
def CoolsDown (attack : AcceptedAttack) (game : OfflineMatch R) : Prop :=
  ∀ actor ∈ game.actors, actor.id = attack.attacker →
    attack.tick.toNat + (cooldownOf R attack.weapon).toNat ≤
      game.tick.toNat + actor.cooldownTicksRemaining.toNat

/-- An attack starts the cooldown of its weapon. -/
theorem acceptedAttacks_coolDown {game : OfflineMatch R} {attack : AcceptedAttack}
    (h : attack ∈ game.acceptedAttacks) : CoolsDown attack game.step.1 := by
  obtain ⟨hcounts, htick, hshot⟩ := mem_acceptedAttacks h
  intro actor hactor hid
  obtain ⟨before, -, hfires⟩ := Aligned.mem_right game.step_fires.each hactor
  have hbefore : before.id = attack.attacker := hfires.id.symm.trans hid
  obtain ⟨-, hcooldown⟩ := hfires.fired attack.weapon (hbefore ▸ hshot)
  rw [step_tick hcounts, htick, hcooldown]

theorem CoolsDown.call {attack : AcceptedAttack} {game : OfflineMatch R}
    (h : CoolsDown attack game) (call : MatchCall R) : CoolsDown attack (game.call call).1 := by
  cases call with
  | submit command =>
    show CoolsDown attack (game.submit command).1
    unfold submit
    split <;> exact h
  | submitLifecycle command =>
    show CoolsDown attack (game.submitLifecycle command).1
    unfold submitLifecycle
    split <;> exact h
  | drainEvents => exact h
  | step =>
    show CoolsDown attack game.step.1
    cases hcounts : game.countsTick with
    | false =>
      rw [step_uncounted hcounts]
      exact h
    | true =>
      intro actor hactor hid
      obtain ⟨before, hbefore, hfires⟩ := Aligned.mem_right game.step_fires.each hactor
      have hcooling := h before hbefore (hfires.id.symm.trans hid)
      have hslow := hfires.slow
      rw [step_tick hcounts, tick_toNat_succ hcounts]
      omega

/-- No attack comes before the cooldown of an earlier one has run out. -/
theorem CoolsDown.spaced {attack later : AcceptedAttack} {game : OfflineMatch R}
    (h : CoolsDown attack game) (calls : List (MatchCall R))
    (hlater : later ∈ game.attacksAlong calls) (hsame : later.attacker = attack.attacker) :
    attack.tick.toNat + (cooldownOf R attack.weapon).toNat ≤ later.tick.toNat := by
  induction calls generalizing game with
  | nil => cases hlater
  | cons call calls ih =>
    rcases List.mem_append.mp hlater with hnow | hthen
    · cases call with
      | step =>
        obtain ⟨hcounts, htick, hshot⟩ := mem_acceptedAttacks hnow
        obtain ⟨before, hbefore, hid⟩ := game.step_fires.known _ hshot
        obtain ⟨after, -, hfires⟩ := Aligned.mem_left game.step_fires.each hbefore
        obtain ⟨hready, -⟩ := hfires.fired later.weapon (hid ▸ hshot)
        have hcooling := h before hbefore (hid.trans hsame)
        rw [htick, tick_toNat_succ hcounts]
        omega
      | submit command => cases hnow
      | submitLifecycle command => cases hnow
      | drainEvents => cases hnow
    · exact ih (h.call call) hthen

theorem call_tick_le (game : OfflineMatch R) (call : MatchCall R) :
    game.tick.toNat ≤ (game.call call).1.tick.toNat := by
  cases call with
  | submit command =>
    show _ ≤ (game.submit command).1.tick.toNat
    unfold submit
    split <;> exact le_rfl
  | submitLifecycle command =>
    show _ ≤ (game.submitLifecycle command).1.tick.toNat
    unfold submitLifecycle
    split <;> exact le_rfl
  | drainEvents => exact le_rfl
  | step =>
    show _ ≤ game.step.1.tick.toNat
    cases hcounts : game.countsTick with
    | false => rw [step_uncounted hcounts]
    | true =>
      rw [step_tick hcounts, tick_toNat_succ hcounts]
      exact Nat.le_succ _

theorem lt_attacksAlong {game : OfflineMatch R} {calls : List (MatchCall R)}
    {attack : AcceptedAttack} (h : attack ∈ game.attacksAlong calls) :
    game.tick.toNat < attack.tick.toNat := by
  induction calls generalizing game with
  | nil => cases h
  | cons call calls ih =>
    rcases List.mem_append.mp h with hnow | hthen
    · cases call with
      | step =>
        obtain ⟨hcounts, htick, -⟩ := mem_acceptedAttacks hnow
        rw [htick, tick_toNat_succ hcounts]
        exact Nat.lt_succ_self _
      | submit command => cases hnow
      | submitLifecycle command => cases hnow
      | drainEvents => cases hnow
    · exact (game.call_tick_le call).trans_lt (ih hthen)

/-- In a run from any state two attacks of an actor are as far apart as the weapon of the
first one asks. -/
theorem attacks_spaced (game : OfflineMatch R) (calls : List (MatchCall R)) :
    ∀ first ∈ game.attacksAlong calls, ∀ second ∈ game.attacksAlong calls,
      first.attacker = second.attacker → first.tick < second.tick →
        (cooldownOf R first.weapon).toNat ≤ second.tick.toNat - first.tick.toNat := by
  intro first hfirst second hsecond hsame hlt
  rw [UInt32.lt_iff_toNat_lt] at hlt
  induction calls generalizing game with
  | nil => cases hfirst
  | cons call calls ih =>
    rcases List.mem_append.mp hfirst with hnow | hthen
    · cases call with
      | step =>
        obtain ⟨hcounts, htick, -⟩ := mem_acceptedAttacks hnow
        rcases List.mem_append.mp hsecond with htoo | hlater
        · obtain ⟨-, htick', -⟩ := mem_acceptedAttacks htoo
          rw [htick, htick'] at hlt
          exact absurd hlt (lt_irrefl _)
        · have hspaced := (acceptedAttacks_coolDown hnow).spaced calls hlater hsame.symm
          omega
      | submit command => cases hnow
      | submitLifecycle command => cases hnow
      | drainEvents => cases hnow
    · rcases List.mem_append.mp hsecond with hnow | hlater
      · cases call with
        | step =>
          obtain ⟨hcounts, htick, -⟩ := mem_acceptedAttacks hnow
          have hafter : (game.tick + 1).toNat < first.tick.toNat := by
            rw [← step_tick hcounts]
            exact lt_attacksAlong hthen
          rw [htick] at hlt
          exact absurd hlt (lt_asymm hafter)
        | submit command => cases hnow
        | submitLifecycle command => cases hnow
        | drainEvents => cases hnow
      · exact ih _ hthen hlater

/-! ## Two contenders side by side -/

def closeConfig : MatchConfig Float32 :=
  { duelConfig with
    contenderSpawnSpacing := 0.5
    contenderSpawnInnerRadius := 0
    contenderSpawnOuterRadius := 1 }

/-- An attack at the first tick, and another one as soon as the cooldown has run out. -/
def twoShots : List (MatchCall Float32) :=
  [.submit { actor := 0, attackTarget := some 1 }, .step] ++ List.replicate 20 .step ++
    [.submit { actor := 0, attackTarget := some 1 }, .step]

theorem attacks_spaced_twoShots :
    ∃ started, startedMatch duelMesh closeConfig = .ok started ∧
      started.attacksAlong twoShots = [⟨1, 0, .blade⟩, ⟨22, 0, .blade⟩] ∧
      (cooldownOf Float32 .blade).toNat ≤ (22 : UInt32).toNat - (1 : UInt32).toNat := by
  have hrun : (startedMatch duelMesh closeConfig).toOption.any (fun started =>
      started.attacksAlong twoShots == [⟨1, 0, .blade⟩, ⟨22, 0, .blade⟩]) = true := by
    decide +kernel
  obtain ⟨started, hstarted, htest⟩ := except_any hrun
  have hattacks := eq_of_beq htest
  refine ⟨started, hstarted, hattacks, ?_⟩
  have hfirst : (⟨1, 0, .blade⟩ : AcceptedAttack) ∈ started.attacksAlong twoShots := by
    rw [hattacks]
    exact List.mem_cons_self
  have hsecond : (⟨22, 0, .blade⟩ : AcceptedAttack) ∈ started.attacksAlong twoShots := by
    rw [hattacks]
    exact List.mem_cons_of_mem _ List.mem_cons_self
  exact attacks_spaced started twoShots _ hfirst _ hsecond rfl (by decide)

end OfflineMatch

end Phases

end SurvivalArena
