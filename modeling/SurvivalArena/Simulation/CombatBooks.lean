import SurvivalArena.Simulation.PhaseBooks

/-!
# What the combat of a tick books

The damage and death records of a tick's combat account for what the combat does to
the actors, also where the last contender is preserved.
-/

namespace SurvivalArena

open KeyedList

/-! ## Reading the records -/

def dealtTo (target : ActorId) (damage : List DamageRecord) : Int :=
  ((damage.filter fun record => record.target = target).map DamageRecord.amount).sum

def deathCount (victim : ActorId) (deaths : List DeathRecord) : Nat :=
  deaths.countP fun record => record.victim = victim

def creditCount (killer : ActorId) (deaths : List DeathRecord) : Nat :=
  deaths.countP fun record => record.killer = some killer

theorem dealtTo_append (target : ActorId) (first second : List DamageRecord) :
    dealtTo target (first ++ second) = dealtTo target first + dealtTo target second := by
  rw [dealtTo, List.filter_append, List.map_append, List.sum_append]
  rfl

theorem dealtTo_other {target : ActorId} {damage : List DamageRecord}
    (h : ∀ record ∈ damage, record.target ≠ target) : dealtTo target damage = 0 := by
  rw [dealtTo, List.filter_eq_nil_iff.mpr (by simpa using h)]
  rfl

variable {R : Type}

/-- The records account for the change of an actor. -/
structure FoughtActor (resolution : CombatResolution) (before after : CombatActor R) :
    Prop where
  id : after.id = before.id
  role : after.role = before.role
  position : after.position = before.position
  weapon : after.weapon = before.weapon
  health : after.health = before.health - dealtTo before.id resolution.damage
  eliminations : after.eliminations.toNat =
    before.eliminations.toNat + creditCount before.id resolution.deaths
  leaves : deathCount before.id resolution.deaths =
    if before.alive && !after.alive then 1 else 0
  alive : after.alive = true → before.alive = true

/-! ## The attacks of a tick -/

section Attacks

variable [Scalar R]

/-- A contribution of an actor to a living one. -/
structure FairContribution (actors : List (CombatActor R))
    (contribution : ActorId × DamageContribution) : Prop where
  target : ∃ actor ∈ actors, actor.id = contribution.1 ∧ actor.alive = true
  amount : 0 < contribution.2.amount

omit [Scalar R] in
theorem filterAuxM_subset {α : Type} {p : α → Except Exception Bool} {l acc kept : List α}
    (h : l.filterAuxM p acc = .ok kept) : kept ⊆ l ++ acc := by
  induction l generalizing acc with
  | nil =>
    cases h
    exact List.Subset.refl _
  | cons a l ih =>
    rw [List.filterAuxM] at h
    obtain ⟨keep, -, h⟩ := except_bind_eq_ok.mp h
    have hkept := ih h
    intro b hb
    rcases List.mem_append.mp (hkept hb) with hlater | hacc
    · exact List.mem_append_left _ (List.mem_cons_of_mem a hlater)
    · cases keep with
      | false => exact List.mem_append_right _ hacc
      | true =>
        rcases List.mem_cons.mp hacc with rfl | hacc
        · exact List.mem_append_left _ List.mem_cons_self
        · exact List.mem_append_right _ hacc

omit [Scalar R] in
theorem filterM_subset {α : Type} {p : α → Except Exception Bool} {l kept : List α}
    (h : l.filterM p = .ok kept) : kept ⊆ l := by
  obtain ⟨reversed, hreversed, h⟩ := except_bind_eq_ok.mp h
  cases h
  intro a ha
  simpa using filterAuxM_subset hreversed (List.mem_reverse.mp ha)

theorem affectedTargets_alive {actors : List (CombatActor R)}
    {attacker target : CombatActor R} {weapon : WeaponDefinition R} {targets : List ActorId}
    (htarget : target ∈ actors) (htargetable : canTarget attacker target = true)
    (h : affectedTargets actors attacker target weapon = .ok targets) :
    ∀ id ∈ targets, ∃ actor ∈ actors, actor.id = id ∧ actor.alive = true := by
  have halive {candidate : CombatActor R} (hcandidate : canTarget attacker candidate = true) :
      candidate.alive = true :=
    (Bool.and_eq_true_iff.mp (Bool.and_eq_true_iff.mp hcandidate).1).2
  unfold affectedTargets at h
  split at h
  · cases h
    intro id hid
    rw [List.mem_singleton.mp hid]
    exact ⟨target, htarget, rfl, halive htargetable⟩
  · obtain ⟨reached, hreached, h⟩ := except_bind_eq_ok.mp h
    cases h
    intro id hid
    obtain ⟨actor, hactor, rfl⟩ := List.mem_map.mp hid
    obtain ⟨hmem, hcandidate⟩ := List.mem_filter.mp (filterM_subset hreached hactor)
    exact ⟨actor, hmem, rfl, halive hcandidate⟩

theorem weaponDefinitionFor_damage (weapon : WeaponType) :
    0 < (weaponDefinitionFor weapon : WeaponDefinition R).damage := by
  cases weapon <;> simp [weaponDefinitionFor]

theorem declareAttack_fair {actors : List (CombatActor R)} {attacks attacks' : Attacks}
    {intent : AttackIntent}
    (hfair : ∀ contribution ∈ attacks.contributions, FairContribution actors contribution)
    (h : declareAttack actors attacks intent = .ok attacks') :
    ∀ contribution ∈ attacks'.contributions, FairContribution actors contribution := by
  unfold declareAttack at h
  split at h
  · rename_i attacker target hattacker htarget
    split at h
    · cases h
      exact hfair
    · rename_i hready
      obtain ⟨distance, -, h⟩ := except_bind_eq_ok.mp h
      split at h
      · cases h
        exact hfair
      · obtain ⟨targets, htargets, h⟩ := except_bind_eq_ok.mp h
        cases h
        have htargetable : canTarget attacker target = true := by
          simp only [Bool.or_eq_true, not_or, Bool.not_eq_true', Bool.not_eq_false] at hready
          exact hready.2
        have halive := affectedTargets_alive (findActor_mem htarget).1 htargetable htargets
        refine List.forall_mem_append.mpr ⟨hfair, fun contribution hcontribution => ?_⟩
        obtain ⟨id, hid, rfl⟩ := List.mem_map.mp hcontribution
        exact ⟨halive id hid, weaponDefinitionFor_damage attacker.weapon⟩
  · cases h
    exact hfair

theorem declareAttacks_fair {actors : List (CombatActor R)} {intents : List AttackIntent}
    {attacks : Attacks} (h : declareAttacks actors intents = .ok attacks) :
    ∀ contribution ∈ attacks.contributions, FairContribution actors contribution := by
  obtain ⟨⟨⟩, -, h⟩ := except_bind_eq_ok.mp h
  obtain ⟨⟨⟩, -, h⟩ := except_bind_eq_ok.mp h
  generalize sortByKey AttackIntent.attacker intents = sorted at h
  have hnone : ∀ contribution ∈ ({} : Attacks).contributions,
      FairContribution actors contribution := nofun
  generalize ({} : Attacks) = declared at h hnone
  induction sorted generalizing declared with
  | nil =>
    cases h
    exact hnone
  | cons intent sorted ih =>
    rw [List.foldlM_cons] at h
    obtain ⟨next, hnext, h⟩ := except_bind_eq_ok.mp h
    exact ih next h (declareAttack_fair hnone hnext)

/-! ## The damage -/

/-- The records account for the health of an actor and for its death. -/
structure Hit (damage : List DamageRecord) (deaths : List DeathRecord)
    (before after : CombatActor R) : Prop where
  same : after = { before with health := after.health, alive := after.alive }
  health : after.health = before.health - dealtTo before.id damage
  leaves : deathCount before.id deaths = if before.alive && !after.alive then 1 else 0
  alive : after.alive = true → before.alive = true

omit [Scalar R] in
theorem Hit.trans {damage damage' : List DamageRecord} {deaths deaths' : List DeathRecord}
    {before between after : CombatActor R} (hfirst : Hit damage deaths before between)
    (hsecond : Hit damage' deaths' between after) :
    Hit (damage ++ damage') (deaths ++ deaths') before after := by
  obtain ⟨hsame, hhealth, hleaves, halive⟩ := hfirst
  obtain ⟨hsame', hhealth', hleaves', halive'⟩ := hsecond
  have hid : between.id = before.id := by rw [hsame]
  rw [hid] at hhealth' hleaves'
  refine ⟨?_, ?_, ?_, fun h => halive (halive' h)⟩
  · rw [hsame', hsame]
  · rw [hhealth', hhealth, dealtTo_append]
    omega
  · rw [deathCount, List.countP_append]
    change deathCount before.id deaths + deathCount before.id deaths' = _
    revert hleaves hleaves' halive halive'
    cases before.alive <;> cases between.alive <;> cases after.alive <;> simp <;> omega

/-- What the contributions to some targets did. -/
structure Struck (ids : List ActorId) (actors actors' : List (CombatActor R))
    (damage : List DamageRecord) (deaths : List DeathRecord) : Prop where
  hit : List.Forall₂ (Hit damage deaths) actors actors'
  healthy : ∀ actor ∈ actors', Healthy actor
  targets : (damage.map DamageRecord.target).Sublist ids
  positive : ∀ record ∈ damage, 0 < record.amount
  victims : (deaths.map DeathRecord.victim).Sublist (damage.map DamageRecord.target)
  killers : ∀ record ∈ deaths, record.killer ≠ none

omit [Scalar R] in
theorem hurt_hit {actor : CombatActor R} (hhealthy : Healthy actor) (halive : actor.alive = true)
    {damage : Int} (hdamage : 0 < damage) (source : Option ActorId) :
    Hit [⟨actor.id, min actor.health damage, source⟩]
        (if actor.health - min actor.health damage = 0 then [⟨actor.id, source⟩] else [])
        actor (hurt (min actor.health damage) actor) ∧
      Healthy (hurt (min actor.health damage) actor) := by
  have hpositive := hhealthy.alive.mp halive
  have hle := hhealthy.le
  unfold hurt
  by_cases hdead : actor.health - min actor.health damage = 0
  · refine ⟨⟨rfl, ?_, ?_, ?_⟩, ⟨?_, ?_, ?_⟩⟩ <;>
      simp [hdead, halive, dealtTo, deathCount]
  · refine ⟨⟨rfl, ?_, ?_, ?_⟩, ⟨?_, ?_, ?_⟩⟩ <;>
      simp [hdead, halive, dealtTo, deathCount] <;> omega

omit [Scalar R] in
/-- Records of other actors. -/
theorem Hit.other {damage : List DamageRecord} {deaths : List DeathRecord}
    {actor : CombatActor R} (hdamage : ∀ record ∈ damage, record.target ≠ actor.id)
    (hdeaths : ∀ record ∈ deaths, record.victim ≠ actor.id) :
    Hit damage deaths actor actor where
  same := rfl
  health := by rw [dealtTo_other hdamage, Int.sub_zero]
  leaves := by
    have hnone : deathCount actor.id deaths = 0 := List.countP_eq_zero.mpr (by simpa using hdeaths)
    rw [hnone]
    cases actor.alive <;> rfl
  alive := id

omit [Scalar R] in
/-- One target is struck. -/
theorem updateActor_hit {actors : List (CombatActor R)} (hdistinct : Distinct actors)
    {target : CombatActor R} (htarget : target ∈ actors)
    {change : CombatActor R → CombatActor R} {damage : List DamageRecord}
    {deaths : List DeathRecord} (hchange : Hit damage deaths target (change target))
    (hdamage : ∀ record ∈ damage, record.target = target.id)
    (hdeaths : ∀ record ∈ deaths, record.victim = target.id) :
    List.Forall₂ (Hit damage deaths) actors (updateActor actors target.id change) := by
  refine Aligned.map fun actor hactor => ?_
  split
  · rename_i hid
    rw [hdistinct.eq_of_id hactor htarget hid]
    exact hchange
  · rename_i hid
    exact Hit.other (fun record hrecord hsame => hid (hsame.symm.trans (hdamage record hrecord)))
      fun record hrecord hsame => hid (hsame.symm.trans (hdeaths record hrecord))

omit [Scalar R] in
theorem sum_positive {amounts : List Int} (h : ∀ amount ∈ amounts, 0 < amount)
    (hsome : amounts ≠ []) : 0 < amounts.sum := by
  induction amounts with
  | nil => exact absurd rfl hsome
  | cons amount amounts ih =>
    have hhead := h amount List.mem_cons_self
    rw [List.sum_cons]
    by_cases hnil : amounts = []
    · rw [hnil, List.sum_nil]
      omega
    · have htail := ih (fun later hlater => h later (List.mem_cons_of_mem amount hlater)) hnil
      omega

omit [Scalar R] in
theorem total_positive {contributions : List (ActorId × DamageContribution)}
    (hamounts : ∀ contribution ∈ contributions, 0 < contribution.2.amount) {id : ActorId}
    {source : ActorId} (hsource : primarySource (contributionsTo contributions id) = .ok source) :
    0 < ((contributionsTo contributions id).map DamageContribution.amount).sum := by
  refine sum_positive ?_ ?_
  · intro amount hamount
    obtain ⟨given, hgiven, rfl⟩ := List.mem_map.mp hamount
    obtain ⟨contribution, hcontribution, rfl⟩ := List.mem_map.mp hgiven
    exact hamounts contribution (List.mem_filter.mp hcontribution).1
  · intro hnil
    rw [List.map_eq_nil_iff.mp hnil] at hsource
    cases hsource

omit [Scalar R] in
/-- One target and then the others. -/
theorem Struck.cons {id : ActorId} {ids : List ActorId}
    {actors actors' actors'' : List (CombatActor R)} {own : DamageRecord}
    {ownDeaths : List DeathRecord} {damage : List DamageRecord} {deaths : List DeathRecord}
    (hhit : List.Forall₂ (Hit [own] ownDeaths) actors actors') (htarget : own.target = id)
    (hpositive : 0 < own.amount)
    (hdeaths : (ownDeaths.map DeathRecord.victim).Sublist [id])
    (hkillers : ∀ record ∈ ownDeaths, record.killer ≠ none)
    (h : Struck ids actors' actors'' damage deaths) :
    Struck (id :: ids) actors actors'' ([own] ++ damage) (ownDeaths ++ deaths) where
  hit := Aligned.compose (fun _ _ _ hfirst hsecond => hfirst.trans hsecond) hhit h.hit
  healthy := h.healthy
  targets := by
    rw [List.singleton_append, List.map_cons, htarget]
    exact h.targets.cons_cons id
  positive := List.forall_mem_cons.mpr ⟨hpositive, h.positive⟩
  victims := by
    rw [List.map_append, List.map_append, List.map_singleton, htarget]
    exact hdeaths.append h.victims
  killers := List.forall_mem_append.mpr ⟨hkillers, h.killers⟩

omit [Scalar R] in
theorem applyContributions_struck {contributions : List (ActorId × DamageContribution)}
    {ids : List ActorId} {actors actors' : List (CombatActor R)}
    {resolution resolution' : CombatResolution}
    (hamounts : ∀ contribution ∈ contributions, 0 < contribution.2.amount)
    (hids : ids.Nodup) (hdistinct : Distinct actors)
    (hhealthy : ∀ actor ∈ actors, Healthy actor)
    (halive : ∀ actor ∈ actors, actor.id ∈ ids → actor.alive = true)
    (h : applyContributions contributions ids actors resolution =
      (actors', .ok resolution')) :
    ∃ damage deaths, resolution' = { resolution with
        damage := resolution.damage ++ damage, deaths := resolution.deaths ++ deaths } ∧
      Struck ids actors actors' damage deaths := by
  induction ids generalizing actors resolution with
  | nil =>
    cases h
    refine ⟨[], [], by simp, ⟨?_, hhealthy, List.Sublist.slnil, nofun, List.Sublist.slnil,
      nofun⟩⟩
    exact List.forall₂_same.mpr fun actor _ => Hit.other nofun nofun
  | cons id ids ih =>
    obtain ⟨hfresh, hrest⟩ := List.nodup_cons.mp hids
    rw [applyContributions] at h
    split at h
    · obtain ⟨damage, deaths, hresolution, hstruck⟩ := ih hrest hdistinct hhealthy
        (fun actor hactor hid => halive actor hactor (List.mem_cons_of_mem id hid)) h
      exact ⟨damage, deaths, hresolution, { hstruck with
        targets := hstruck.targets.cons id }⟩
    · rename_i target hfound
      obtain ⟨htarget, rfl⟩ := findActor_mem hfound
      dsimp only at h
      split at h
      · cases congrArg Prod.snd h
      · obtain ⟨source, hsource, h⟩ := attempt_eq_ok.mp h
        have hliving := halive target htarget List.mem_cons_self
        have hpositive := (hhealthy target htarget).alive.mp hliving
        have htotal := total_positive hamounts hsource
        obtain ⟨hhit, hhealthyTarget⟩ :=
          hurt_hit (hhealthy target htarget) hliving htotal (some source)
        have hall := updateActor_hit hdistinct htarget hhit
          (fun record hrecord => by rw [List.mem_singleton.mp hrecord])
          (fun record hrecord => by
            split at hrecord
            · rw [List.mem_singleton.mp hrecord]
            · cases hrecord)
        obtain ⟨damage, deaths, hresolution, hstruck⟩ := ih hrest
          (by
            rw [Distinct, Aligned.map_eq (fun _ _ hpair => by rw [hpair.same]) hall]
            exact hdistinct)
          (by
            intro actor hactor
            obtain ⟨before, hbefore, rfl⟩ := List.mem_map.mp hactor
            split
            · rename_i hid
              rw [hdistinct.eq_of_id hbefore htarget hid]
              exact hhealthyTarget
            · exact hhealthy before hbefore)
          (by
            intro actor hactor hlater
            obtain ⟨before, hbefore, rfl⟩ := List.mem_map.mp hactor
            split at hlater
            · rename_i hid
              rw [hdistinct.eq_of_id hbefore htarget hid] at hlater
              exact absurd hlater hfresh
            · rename_i hid
              rw [if_neg hid]
              exact halive before hbefore (List.mem_cons_of_mem _ hlater)) h
        refine ⟨_, _, ?_, hstruck.cons hall rfl (by dsimp only; omega) ?_ ?_⟩
        · rw [hresolution]
          dsimp only
          split <;> simp
        · split
          · exact List.Sublist.refl _
          · exact List.nil_sublist _
        · intro record hrecord
          split at hrecord
          · rw [List.mem_singleton.mp hrecord]
            nofun
          · cases hrecord

/-! ## The credits -/

/-- An actor is credited with its kills. -/
structure Credited (deaths : List DeathRecord) (before after : CombatActor R) : Prop where
  same : after = { before with eliminations := after.eliminations }
  eliminations : after.eliminations.toNat =
    before.eliminations.toNat + creditCount before.id deaths

omit [Scalar R] in
theorem Credited.trans {deaths deaths' : List DeathRecord}
    {before between after : CombatActor R} (hfirst : Credited deaths before between)
    (hsecond : Credited deaths' between after) : Credited (deaths ++ deaths') before after := by
  obtain ⟨hsame, heliminations⟩ := hfirst
  obtain ⟨hsame', heliminations'⟩ := hsecond
  have hid : between.id = before.id := by rw [hsame]
  refine ⟨by rw [hsame', hsame], ?_⟩
  rw [heliminations', heliminations, hid, creditCount, creditCount, creditCount,
    List.countP_append, Nat.add_assoc]

omit [Scalar R] in
/-- The killer of one death is credited. -/
theorem updateActor_credited {actors : List (CombatActor R)} (hdistinct : Distinct actors)
    {killer : CombatActor R} (hkiller : killer ∈ actors)
    (hroom : killer.eliminations ≠ 2 ^ 32 - 1) {death : DeathRecord}
    (hdeath : death.killer = some killer.id) :
    List.Forall₂ (Credited [death]) actors (updateActor actors killer.id creditKill) := by
  refine Aligned.map fun actor hactor => ?_
  split
  · rename_i hid
    rw [hdistinct.eq_of_id hactor hkiller hid]
    refine ⟨rfl, ?_⟩
    have hbelow : killer.eliminations.toNat ≠ 2 ^ 32 - 1 := fun heq =>
      hroom (UInt32.toNat_inj.mp heq)
    have hlt := killer.eliminations.toNat_lt
    have hcount : creditCount killer.id [death] = 1 := by simp [creditCount, hdeath]
    rw [hcount, creditKill, UInt32.toNat_add, UInt32.toNat_one]
    omega
  · rename_i hid
    refine ⟨rfl, ?_⟩
    have hcount : creditCount actor.id [death] = 0 := by
      simp [creditCount, hdeath, Ne.symm hid]
    rw [hcount, Nat.add_zero]

omit [Scalar R] in
theorem creditKills_credited {deaths : List DeathRecord}
    {actors actors' : List (CombatActor R)} (hdistinct : Distinct actors)
    (h : creditKills deaths actors = (actors', .ok ())) :
    List.Forall₂ (Credited deaths) actors actors' := by
  induction deaths generalizing actors with
  | nil =>
    cases h
    exact List.forall₂_same.mpr fun actor _ => ⟨rfl, rfl⟩
  | cons death deaths ih =>
    rw [creditKills] at h
    split at h
    · rename_i hnone
      have hown : List.Forall₂ (Credited [death]) actors actors := by
        refine List.forall₂_same.mpr fun actor hactor => ⟨rfl, ?_⟩
        have hcount : creditCount actor.id [death] = 0 := by
          refine List.countP_eq_zero.mpr fun record hrecord => ?_
          rw [List.mem_singleton.mp hrecord, decide_eq_true_iff]
          intro hkiller
          rw [hkiller, Option.bind_some, findActor_eq_some hdistinct hactor] at hnone
          cases hnone
        rw [hcount, Nat.add_zero]
      exact Aligned.compose (fun _ _ _ hfirst hsecond => hfirst.trans hsecond) hown
        (ih hdistinct h)
    · rename_i killer hfound
      obtain ⟨id, hid, hfound⟩ := Option.bind_eq_some_iff.mp hfound
      obtain ⟨hkiller, rfl⟩ := findActor_mem hfound
      split at h
      · cases congrArg Prod.snd h
      · rename_i hroom
        have hown := updateActor_credited hdistinct hkiller hroom hid
        refine Aligned.compose (fun _ _ _ hfirst hsecond => hfirst.trans hsecond) hown (ih ?_ h)
        rw [Distinct, Aligned.map_eq (fun _ _ hpair => by rw [hpair.same]) hown]
        exact hdistinct

/-! ## The whole combat -/

/-- What the combat of a tick did. -/
structure Fought (actors actors' : List (CombatActor R)) (resolution : CombatResolution) :
    Prop where
  fought : List.Forall₂ (FoughtActor resolution) actors actors'
  healthy : ∀ actor ∈ actors', Healthy actor
  targets : (resolution.damage.map DamageRecord.target).Nodup
  positive : ∀ record ∈ resolution.damage, 0 < record.amount
  victims : (resolution.deaths.map DeathRecord.victim).Sublist
    (resolution.damage.map DamageRecord.target)
  killers : ∀ record ∈ resolution.deaths, record.killer ≠ none

/-- Only the cooldown of an attacker changes. -/
def Cooled (before after : CombatActor R) : Prop :=
  after = { before with cooldownTicksRemaining := after.cooldownTicksRemaining }

theorem startCooldowns_cooled (intents : List AttackIntent) (actors : List (CombatActor R)) :
    List.Forall₂ Cooled actors (intents.foldl (fun actors intent =>
      updateActor actors intent.attacker startCooldown) actors) := by
  induction intents generalizing actors with
  | nil => exact List.forall₂_same.mpr fun _ _ => rfl
  | cons intent intents ih =>
    have hown : List.Forall₂ Cooled actors
        (updateActor actors intent.attacker startCooldown) := by
      refine Aligned.map fun actor _ => ?_
      split <;> rfl
    refine Aligned.compose (fun first between last hfirst hsecond => ?_) hown (ih _)
    rw [Cooled, hsecond, hfirst]

omit [Scalar R] in
theorem targetsOf_nodup (contributions : List (ActorId × DamageContribution)) :
    (targetsOf contributions).Nodup := by
  have hsorted : List.Pairwise (fun first second => id first ≤ id second)
      (sortByKey id (contributions.map Prod.fst)) := sortByKey_pairwise _
  have hascending := (ascending_unique hsorted).nodup_keys
  rwa [List.map_id] at hascending

omit [Scalar R] in
theorem mem_targetsOf {contributions : List (ActorId × DamageContribution)} {id : ActorId}
    (h : id ∈ targetsOf contributions) :
    ∃ contribution ∈ contributions, contribution.1 = id :=
  List.mem_map.mp ((sortByKey_perm _).mem_iff.mp (mem_unique.mp h))

omit [Scalar R] in
/-- An actor's cooldown, its damage and its credit. -/
theorem FoughtActor.compose {resolution : CombatResolution}
    {before cooled struck after : CombatActor R} (hcooled : Cooled before cooled)
    (hstruck : Hit resolution.damage resolution.deaths cooled struck)
    (hcredited : Credited resolution.deaths struck after) :
    FoughtActor resolution before after := by
  have hid : cooled.id = before.id := by rw [hcooled]
  have hstruckId : struck.id = before.id := by rw [hstruck.same, ← hid]
  have halive : after.alive = struck.alive := by rw [hcredited.same]
  have hcooledAlive : cooled.alive = before.alive := by rw [hcooled]
  exact {
    id := by rw [hcredited.same, ← hstruckId]
    role := by rw [hcredited.same, hstruck.same, hcooled]
    position := by rw [hcredited.same, hstruck.same, hcooled]
    weapon := by rw [hcredited.same, hstruck.same, hcooled]
    health := by
      have hhealth : after.health = struck.health := by rw [hcredited.same]
      have hcooledHealth : cooled.health = before.health := by rw [hcooled]
      rw [hhealth, hstruck.health, hcooledHealth, hid]
    eliminations := by
      have hstruckEliminations : struck.eliminations = before.eliminations := by
        rw [hstruck.same, hcooled]
      rw [hcredited.eliminations, hstruckEliminations, hstruckId]
    leaves := by
      have hleaves := hstruck.leaves
      rwa [hid, hcooledAlive, ← halive] at hleaves
    alive := fun h => hcooledAlive ▸ hstruck.alive (halive ▸ h) }

theorem resolveAttacks_fought {actors actors' : List (CombatActor R)}
    {intents : List AttackIntent} {resolution : CombatResolution}
    (hdistinct : Distinct actors) (hhealthy : ∀ actor ∈ actors, Healthy actor)
    (h : resolveAttacks actors intents = (actors', .ok resolution)) :
    Fought actors actors' resolution := by
  obtain ⟨attacks, hattacks, h⟩ := attempt_eq_ok.mp h
  have hfair := declareAttacks_fair hattacks
  have hcooled := startCooldowns_cooled attacks.acceptedIntents actors
  generalize attacks.acceptedIntents.foldl (fun actors intent =>
    updateActor actors intent.attacker startCooldown) actors = attacking at h hcooled
  dsimp only at h
  generalize hstrike : applyContributions attacks.contributions
    (targetsOf attacks.contributions) attacking
    { acceptedIntents := attacks.acceptedIntents } = struck at h
  obtain ⟨struckActors, outcome⟩ := struck
  obtain ⟨dealt, rfl, h⟩ := attempt_eq_ok.mp h
  dsimp only at h
  generalize hcredit : creditKills dealt.deaths struckActors = credited at h
  obtain ⟨creditedActors, outcome⟩ := credited
  obtain ⟨⟨⟩, rfl, h⟩ := attempt_eq_ok.mp h
  cases h
  have hattackingDistinct : Distinct attacking := by
    rw [Distinct, Aligned.map_eq (fun _ _ hpair => by rw [hpair]) hcooled]
    exact hdistinct
  have hattackingHealthy : ∀ actor ∈ attacking, Healthy actor := by
    intro actor hactor
    obtain ⟨before, hbefore, hpair⟩ := Aligned.mem_right hcooled hactor
    obtain ⟨hnonneg, hle, halive⟩ := hhealthy before hbefore
    rw [hpair]
    exact ⟨hnonneg, hle, halive⟩
  -- The targets were alive when the attacks were declared.
  have hliving : ∀ actor ∈ attacking, actor.id ∈ targetsOf attacks.contributions →
      actor.alive = true := by
    intro actor hactor hid
    obtain ⟨contribution, hcontribution, hsame⟩ := mem_targetsOf hid
    obtain ⟨target, htarget, htargetId, halive⟩ := (hfair contribution hcontribution).target
    obtain ⟨before, hbefore, hpair⟩ := Aligned.mem_right hcooled hactor
    have hbeforeId : actor.id = before.id := by rw [hpair]
    have heq := hdistinct.eq_of_id hbefore htarget
      (hbeforeId.symm.trans (hsame.symm.trans htargetId.symm))
    rw [hpair, heq]
    exact halive
  obtain ⟨damage, deaths, rfl, hstruck⟩ := applyContributions_struck
    (fun contribution hcontribution => (hfair contribution hcontribution).amount)
    (targetsOf_nodup _) hattackingDistinct hattackingHealthy hliving hstrike
  rw [List.nil_append] at hcredit
  have hstruckDistinct : Distinct struckActors := by
    rw [Distinct, Aligned.map_eq (fun _ _ hpair => by rw [hpair.same]) hstruck.hit]
    exact hattackingDistinct
  have hcredited := creditKills_credited hstruckDistinct hcredit
  rw [List.nil_append, List.nil_append]
  have hboth : List.Forall₂ (fun cooled after => ∃ struck,
      Hit damage deaths cooled struck ∧ Credited deaths struck after) attacking creditedActors :=
    Aligned.compose (fun _ between _ hfirst hsecond => ⟨between, hfirst, hsecond⟩)
      hstruck.hit hcredited
  exact {
    fought := by
      refine Aligned.compose (fun _ _ _ hfirst hsecond => ?_) hcooled hboth
      obtain ⟨struck, hhit, hcredit⟩ := hsecond
      exact FoughtActor.compose hfirst hhit hcredit
    healthy := by
      intro actor hactor
      obtain ⟨before, hbefore, hpair⟩ := Aligned.mem_right hcredited hactor
      obtain ⟨hnonneg, hle, halive⟩ := hstruck.healthy before hbefore
      rw [hpair.same]
      exact ⟨hnonneg, hle, halive⟩
    targets := hstruck.targets.nodup (targetsOf_nodup _)
    positive := hstruck.positive
    victims := hstruck.victims
    killers := hstruck.killers }

end Attacks

end SurvivalArena
