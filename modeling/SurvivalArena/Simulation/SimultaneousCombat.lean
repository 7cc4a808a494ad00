import SurvivalArena.Simulation.CombatBooks

/-!
# Attacks at the same time

The attacks of a tick are decided on the state before them, so neither the order of the
intents nor that of the actors matters, and each target has one record of what it lost.
-/

namespace SurvivalArena

open KeyedList

/-! ## Filtering with a test that can throw -/

/-- Where all failures of a test are the same, so are those of its filter. -/
theorem except_filterM {ε α : Type} {p : α → Except ε Bool} {e : ε}
    (hsame : ∀ a e', p a = .error e' → e' = e) (l : List α) :
    l.filterM p = if l.all (fun a => (p a).toOption.isSome) then
      .ok (l.filter fun a => (p a).toOption.getD false) else .error e := by
  have hloop (acc : List α) : l.filterAuxM p acc =
      if l.all (fun a => (p a).toOption.isSome) then
        .ok ((l.filter fun a => (p a).toOption.getD false).reverse ++ acc) else .error e := by
    induction l generalizing acc with
    | nil => rfl
    | cons a l ih =>
      rw [List.filterAuxM, List.all_cons, List.filter_cons]
      cases htest : p a with
      | error e' =>
        rw [hsame a e' htest]
        rfl
      | ok keep =>
        show l.filterAuxM p _ = _
        rw [ih]
        cases keep with
        | false => rfl
        | true =>
          simp [Except.toOption]
  rw [List.filterM, hloop]
  split
  · rw [List.append_nil]
    show Except.ok (List.reverse _) = _
    rw [List.reverse_reverse]
  · rfl

/-- Both throw the same, or both return and the results are related. -/
inductive SameOutcome {α β : Type} (same : α → β → Prop) :
    Except Exception α → Except Exception β → Prop
  | error (e : Exception) : SameOutcome same (.error e) (.error e)
  | ok {a : α} {b : β} (h : same a b) : SameOutcome same (.ok a) (.ok b)

theorem SameOutcome.bind {α β γ δ : Type} {same : α → β → Prop} {same' : γ → δ → Prop}
    {x : Except Exception α} {y : Except Exception β} {next : α → Except Exception γ}
    {next' : β → Except Exception δ} (h : SameOutcome same x y)
    (hnext : ∀ a b, same a b → SameOutcome same' (next a) (next' b)) :
    SameOutcome same' (x >>= next) (y >>= next') := by
  cases h with
  | error e => exact .error e
  | ok hsame => exact hnext _ _ hsame

/-! ## The order of the actors -/

section Permuted

variable {R : Type}

theorem Distinct.perm {actors actors' : List (CombatActor R)} (h : Distinct actors)
    (hperm : actors'.Perm actors) : Distinct actors' :=
  (hperm.map CombatActor.id).nodup_iff.mpr h

theorem findActor_perm {actors actors' : List (CombatActor R)} (hdistinct : Distinct actors)
    (hperm : actors'.Perm actors) (id : ActorId) :
    findActor actors' id = findActor actors id := by
  cases hfound : findActor actors id with
  | none =>
    refine List.find?_eq_none.mpr fun actor hactor => ?_
    exact List.find?_eq_none.mp hfound actor (hperm.mem_iff.mp hactor)
  | some actor =>
    obtain ⟨hactor, rfl⟩ := findActor_mem hfound
    exact findActor_eq_some (hdistinct.perm hperm) (hperm.mem_iff.mpr hactor)

theorem updateActor_ids (actors : List (CombatActor R)) (id : ActorId)
    {change : CombatActor R → CombatActor R} (hchange : ∀ actor, (change actor).id = actor.id) :
    (updateActor actors id change).map CombatActor.id = actors.map CombatActor.id := by
  rw [updateActor, List.map_map]
  refine List.map_congr_left fun actor _ => ?_
  rw [Function.comp_apply]
  split
  · exact hchange actor
  · rfl

theorem Distinct.updateActor {actors : List (CombatActor R)} (h : Distinct actors) (id : ActorId)
    (change : CombatActor R → CombatActor R) (hchange : ∀ actor, (change actor).id = actor.id) :
    Distinct (updateActor actors id change) := by
  rw [Distinct, updateActor_ids actors id hchange]
  exact h

theorem updateActor_perm {actors actors' : List (CombatActor R)} (hperm : actors'.Perm actors)
    (id : ActorId) (change : CombatActor R → CombatActor R) :
    (updateActor actors' id change).Perm (updateActor actors id change) :=
  hperm.map _

variable [Scalar R]

theorem validateActors_eq_ok {ids : List ActorId} {actors : List (CombatActor R)} :
    validateActors ids actors = .ok () ↔ (∀ actor ∈ actors, actor.isValid = true) ∧
      (∀ actor ∈ actors, actor.id ∉ ids) ∧ Distinct actors := by
  induction actors generalizing ids with
  | nil => exact iff_of_true rfl ⟨nofun, nofun, List.nodup_nil⟩
  | cons actor actors ih =>
    rw [validateActors, throwIf_bind_eq_ok, throwIf_bind_eq_ok, ih, Bool.not_eq_false',
      decide_eq_false_iff_not, List.forall_mem_cons, List.forall_mem_cons, Distinct, Distinct,
      List.map_cons, List.nodup_cons]
    constructor
    · rintro ⟨hvalid, hfresh, hlater, hothers, hdistinct⟩
      refine ⟨⟨hvalid, hlater⟩, ⟨hfresh, fun other hother hid => ?_⟩, ?_, hdistinct⟩
      · exact hothers other hother (List.mem_cons_of_mem _ hid)
      · intro hsame
        obtain ⟨other, hother, hid⟩ := List.mem_map.mp hsame
        exact hothers other hother (hid ▸ List.mem_cons_self)
    · rintro ⟨⟨hvalid, hlater⟩, ⟨hfresh, hothers⟩, hnew, hdistinct⟩
      refine ⟨hvalid, hfresh, hlater, fun other hother hid => ?_, hdistinct⟩
      rcases List.mem_cons.mp hid with hsame | hid
      · exact hnew (hsame ▸ List.mem_map_of_mem hother)
      · exact hothers other hother hid

theorem validateActors_perm {actors actors' : List (CombatActor R)}
    (hperm : actors'.Perm actors) (h : validateActors [] actors = .ok ()) :
    validateActors [] actors' = .ok () := by
  obtain ⟨hvalid, -, hdistinct⟩ := validateActors_eq_ok.mp h
  refine validateActors_eq_ok.mpr ⟨fun actor hactor => ?_, nofun, hdistinct.perm hperm⟩
  exact hvalid actor (hperm.mem_iff.mp hactor)

theorem isValid_healthy {actor : CombatActor R} (h : actor.isValid = true) : Healthy actor := by
  simp only [CombatActor.isValid, Bool.and_eq_true, decide_eq_true_eq, beq_iff_eq] at h
  obtain ⟨⟨⟨-, hnonneg⟩, hle⟩, halive⟩ := h
  exact ⟨hnonneg, hle, by rw [halive, decide_eq_true_eq]⟩

theorem distance_error {left right : Vec2 R} {e : Exception}
    (h : left.distance right = .error e) :
    e = .invalidArgument "Vec2 length requires finite coordinates" := by
  unfold Vec2.distance Vec2.length throwIf at h
  split at h
  · cases h
    rfl
  · cases h

theorem within_error (center : Vec2 R) (radius : R) (candidate : CombatActor R) (e : Exception)
    (h : (do
      let distance ← candidate.position.distance center
      pure (decide (distance ≤ radius))) = Except.error e) :
    e = .invalidArgument "Vec2 length requires finite coordinates" := by
  cases hdistance : candidate.position.distance center with
  | error e' =>
    rw [hdistance] at h
    cases h
    exact distance_error hdistance
  | ok distance =>
    rw [hdistance] at h
    cases h

theorem affectedTargets_perm {actors actors' : List (CombatActor R)}
    (hperm : actors'.Perm actors) (attacker target : CombatActor R)
    (weapon : WeaponDefinition R) :
    SameOutcome List.Perm (affectedTargets actors' attacker target weapon)
      (affectedTargets actors attacker target weapon) := by
  unfold affectedTargets
  split
  · exact .ok (List.Perm.refl _)
  · have hcandidates := hperm.filter (canTarget attacker)
    rw [except_filterM (within_error target.position _),
      except_filterM (within_error target.position _)]
    have hall := hcandidates.all_eq (f := fun candidate => (do
      let distance ← candidate.position.distance target.position
      pure (decide (distance ≤ weapon.effectRadius))).toOption.isSome)
    rw [hall]
    split
    · exact .ok ((hcandidates.filter _).map _)
    · exact .error _

/-! ## The contributions to a target -/

theorem contributionsTo_append (first second : List (ActorId × DamageContribution))
    (id : ActorId) :
    contributionsTo (first ++ second) id =
      contributionsTo first id ++ contributionsTo second id := by
  rw [contributionsTo, List.filter_append, List.map_append]
  rfl

theorem contributionsTo_strike (targets : List ActorId) (contribution : DamageContribution)
    (id : ActorId) :
    contributionsTo (targets.map fun target => (target, contribution)) id =
      List.replicate (targets.count id) contribution := by
  induction targets with
  | nil => rfl
  | cons target targets ih =>
    have hhead : contributionsTo [(target, contribution)] id =
        if target = id then [contribution] else [] := by
      by_cases hid : target = id <;> simp [contributionsTo, hid]
    have hsplit := contributionsTo_append [(target, contribution)]
      (targets.map fun target => (target, contribution)) id
    rw [List.singleton_append] at hsplit
    rw [List.map_cons, hsplit, ih, hhead, List.count_cons]
    by_cases hid : target = id
    · rw [if_pos hid, if_pos (beq_iff_eq.mpr hid), List.replicate_succ]
      rfl
    · rw [if_neg hid, if_neg (by simpa using hid)]
      rfl

theorem mem_targetsOf_iff {contributions : List (ActorId × DamageContribution)} {id : ActorId} :
    id ∈ targetsOf contributions ↔ contributionsTo contributions id ≠ [] := by
  unfold targetsOf contributionsTo
  rw [mem_unique, (sortByKey_perm _).mem_iff, Ne, List.map_eq_nil_iff, List.filter_eq_nil_iff]
  simp

theorem targetsOf_ascending (contributions : List (ActorId × DamageContribution)) :
    Ascending id (targetsOf contributions) :=
  ascending_unique (sortByKey_pairwise (contributions.map Prod.fst))

/-- The attacks are the same, and so is what each target is dealt. -/
structure SameAttacks (attacks attacks' : Attacks) : Prop where
  accepted : attacks.acceptedIntents = attacks'.acceptedIntents
  dealt : ∀ id, contributionsTo attacks.contributions id = contributionsTo attacks'.contributions id

theorem SameAttacks.targetsOf_eq {attacks attacks' : Attacks} (h : SameAttacks attacks attacks') :
    targetsOf attacks.contributions = targetsOf attacks'.contributions := by
  refine (targetsOf_ascending _).ext (targetsOf_ascending _) fun id => ?_
  rw [mem_targetsOf_iff, mem_targetsOf_iff, h.dealt id]

theorem declareAttack_perm {actors actors' : List (CombatActor R)}
    (hdistinct : Distinct actors) (hperm : actors'.Perm actors) {attacks attacks' : Attacks}
    (h : SameAttacks attacks' attacks) (intent : AttackIntent) :
    SameOutcome SameAttacks (declareAttack actors' attacks' intent)
      (declareAttack actors attacks intent) := by
  unfold declareAttack
  rw [findActor_perm hdistinct hperm, findActor_perm hdistinct hperm]
  split
  next attacker target hattacker htarget =>
    split
    next => exact .ok h
    next =>
      have hdistance : SameOutcome Eq (attacker.position.distance target.position)
          (attacker.position.distance target.position) := by
        cases attacker.position.distance target.position with
        | error e => exact .error e
        | ok distance => exact .ok rfl
      refine hdistance.bind fun distance _ hsame => ?_
      subst hsame
      split
      next => exact .ok h
      next =>
        refine (affectedTargets_perm hperm attacker target _).bind
          fun targets' targets htargets => ?_
        refine .ok ⟨by rw [h.accepted], fun id => ?_⟩
        rw [contributionsTo_append, contributionsTo_append, h.dealt id, contributionsTo_strike,
          contributionsTo_strike, htargets.count_eq]
  next => exact .ok h

theorem declareAll_perm {actors actors' : List (CombatActor R)} (hdistinct : Distinct actors)
    (hperm : actors'.Perm actors) (intents : List AttackIntent) {attacks attacks' : Attacks}
    (h : SameAttacks attacks' attacks) :
    SameOutcome SameAttacks (intents.foldlM (declareAttack actors') attacks')
      (intents.foldlM (declareAttack actors) attacks) := by
  induction intents generalizing attacks attacks' with
  | nil => exact .ok h
  | cons intent intents ih =>
    rw [List.foldlM_cons, List.foldlM_cons]
    exact (declareAttack_perm hdistinct hperm h intent).bind fun _ _ hnext => ih hnext

theorem declareAttacks_perm {actors actors' : List (CombatActor R)}
    {intents intents' : List AttackIntent} (hactors : validateActors [] actors = .ok ())
    (hunique : (intents.map AttackIntent.attacker).Nodup) (hperm : actors'.Perm actors)
    (hintents : intents'.Perm intents) :
    SameOutcome SameAttacks (declareAttacks actors' intents') (declareAttacks actors intents) := by
  obtain ⟨-, -, hdistinct⟩ := validateActors_eq_ok.mp hactors
  have hsorted : sortByKey AttackIntent.attacker intents' =
      sortByKey AttackIntent.attacker intents := by
    have hkey : ∀ first ∈ intents, ∀ second ∈ intents,
        first.attacker = second.attacker → first = second :=
      fun _ hfirst _ hsecond => List.inj_on_of_nodup_map hunique hfirst hsecond
    have hsorted := sortByKey_append_congr hintents.symm hkey []
    rw [List.append_nil, List.append_nil] at hsorted
    exact hsorted.symm
  have hunique' : (intents'.map AttackIntent.attacker).Nodup :=
    (hintents.map AttackIntent.attacker).nodup_iff.mpr hunique
  unfold declareAttacks validateUniqueAttackers
  rw [validateActors_perm hperm hactors, hactors, decide_eq_true hunique,
    decide_eq_true hunique', hsorted]
  show SameOutcome SameAttacks (List.foldlM _ _ _) (List.foldlM _ _ _)
  exact declareAll_perm hdistinct hperm _ ⟨rfl, fun _ => rfl⟩

/-! ## The damage and the credits in any order of the actors -/

/-- The same answer, with the actors in another order. -/
structure SameCombat {β : Type} (combat combat' : List (CombatActor R) × Except Exception β) :
    Prop where
  actors : combat.1.Perm combat'.1
  distinct : Distinct combat'.1
  outcome : combat.2 = combat'.2

omit [Scalar R] in
/-- The rest after equal outcomes. -/
theorem SameCombat.attempt {α β : Type} {combat combat' : List (CombatActor R) × Except Exception α}
    {next next' : α → List (CombatActor R) × Except Exception β} (h : SameCombat combat combat')
    (hnext : ∀ a, SameCombat (next a) (next' a)) :
    SameCombat (attempt combat.1 combat.2 next) (attempt combat'.1 combat'.2 next') := by
  rw [h.outcome]
  cases combat'.2 with
  | error e => exact ⟨h.actors, h.distinct, rfl⟩
  | ok a => exact hnext a

omit [Scalar R] in
theorem applyContributions_perm {contributions contributions' : List (ActorId × DamageContribution)}
    (hdealt : ∀ id, contributionsTo contributions' id = contributionsTo contributions id)
    (ids : List ActorId) {actors actors' : List (CombatActor R)} (hdistinct : Distinct actors)
    (hperm : actors'.Perm actors) (resolution : CombatResolution) :
    SameCombat (applyContributions contributions' ids actors' resolution)
      (applyContributions contributions ids actors resolution) := by
  induction ids generalizing actors actors' resolution with
  | nil => exact ⟨hperm, hdistinct, rfl⟩
  | cons id ids ih =>
    rw [applyContributions, applyContributions, findActor_perm hdistinct hperm, hdealt id]
    split
    next => exact ih hdistinct hperm resolution
    next target hfound =>
      dsimp only
      split
      next => exact ⟨hperm, hdistinct, rfl⟩
      next =>
        cases primarySource (contributionsTo contributions id) with
        | error e => exact ⟨hperm, hdistinct, rfl⟩
        | ok source =>
          have hlater := hdistinct.updateActor id (hurt (min target.health
            ((contributionsTo contributions id).map DamageContribution.amount).sum)) fun _ => rfl
          exact ih hlater (updateActor_perm hperm id _) _

omit [Scalar R] in
theorem creditKills_perm (deaths : List DeathRecord) {actors actors' : List (CombatActor R)}
    (hdistinct : Distinct actors) (hperm : actors'.Perm actors) :
    SameCombat (creditKills deaths actors') (creditKills deaths actors) := by
  have hfind : findActor actors' = findActor actors :=
    funext (findActor_perm hdistinct hperm)
  induction deaths generalizing actors actors' with
  | nil => exact ⟨hperm, hdistinct, rfl⟩
  | cons death deaths ih =>
    rw [creditKills, creditKills, hfind]
    split
    next => exact ih hdistinct hperm hfind
    next killer hfound =>
      split
      next => exact ⟨hperm, hdistinct, rfl⟩
      next =>
        have hlater := hdistinct.updateActor killer.id creditKill fun _ => rfl
        have hsame := updateActor_perm hperm killer.id creditKill
        exact ih hlater hsame (funext (findActor_perm hlater hsame))

theorem startCooldowns_perm (intents : List AttackIntent) {actors actors' : List (CombatActor R)}
    (hdistinct : Distinct actors) (hperm : actors'.Perm actors) :
    (intents.foldl (fun actors intent =>
        updateActor actors intent.attacker startCooldown) actors').Perm
      (intents.foldl (fun actors intent =>
        updateActor actors intent.attacker startCooldown) actors) ∧
    Distinct (intents.foldl (fun actors intent =>
        updateActor actors intent.attacker startCooldown) actors) := by
  induction intents generalizing actors actors' with
  | nil => exact ⟨hperm, hdistinct⟩
  | cons intent intents ih =>
    exact ih (hdistinct.updateActor intent.attacker startCooldown fun _ => rfl)
      (updateActor_perm hperm intent.attacker startCooldown)

/-- The order of the intents and of the actors does not matter. -/
theorem resolveAttacks_perm {actors actors' : List (CombatActor R)}
    {intents intents' : List AttackIntent} (hactors : validateActors [] actors = .ok ())
    (hunique : (intents.map AttackIntent.attacker).Nodup) (hperm : actors'.Perm actors)
    (hintents : intents'.Perm intents) :
    SameCombat (resolveAttacks actors' intents') (resolveAttacks actors intents) := by
  obtain ⟨-, -, hdistinct⟩ := validateActors_eq_ok.mp hactors
  have hdeclared := declareAttacks_perm hactors hunique hperm hintents
  unfold resolveAttacks
  generalize declareAttacks actors' intents' = declared' at hdeclared
  generalize declareAttacks actors intents = declared at hdeclared
  cases hdeclared with
  | error e => exact ⟨hperm, hdistinct, rfl⟩
  | @ok attacks' attacks hsame =>
    obtain ⟨hattacking, hdistinct⟩ := startCooldowns_perm attacks.acceptedIntents hdistinct hperm
    rw [attempt_ok, attempt_ok, hsame.accepted, hsame.targetsOf_eq]
    have hstruck := applyContributions_perm hsame.dealt (targetsOf attacks.contributions)
      hdistinct hattacking { acceptedIntents := attacks.acceptedIntents }
    refine hstruck.attempt fun resolution => ?_
    have hcredited := creditKills_perm resolution.deaths hstruck.distinct hstruck.actors
    exact hcredited.attempt fun _ => ⟨hcredited.actors, hcredited.distinct, rfl⟩

end Permuted

/-! ## What the state before the attacks decides -/

section Decided

variable {R : Type} [Scalar R]

/-- The attack takes place. -/
def accepts (actors : List (CombatActor R)) (intent : AttackIntent) : Bool :=
  match findActor actors intent.attacker, findActor actors intent.target with
  | some attacker, some target =>
    attacker.alive && attacker.cooldownTicksRemaining == 0 && canTarget attacker target &&
      (attacker.position.distance target.position).toOption.any fun distance =>
        !decide ((weaponDefinitionFor attacker.weapon : WeaponDefinition R).range < distance)
  | _, _ => false

/-- An attack that takes place hits an actor. -/
def hits (actors : List (CombatActor R)) (victim : CombatActor R) (intent : AttackIntent) : Bool :=
  match findActor actors intent.attacker, findActor actors intent.target with
  | some attacker, some target =>
    let weapon : WeaponDefinition R := weaponDefinitionFor attacker.weapon
    if Scalar.equal weapon.effectRadius 0 then decide (target.id = victim.id)
    else canTarget attacker victim &&
      (victim.position.distance target.position).toOption.any fun distance =>
        decide (distance ≤ weapon.effectRadius)
  | _, _ => false

/-- What an attack deals to each actor that it hits. -/
def contributionOf (actors : List (CombatActor R)) (intent : AttackIntent) :
    DamageContribution where
  source := intent.attacker
  amount := (findActor actors intent.attacker).elim 0 fun attacker =>
    (weaponDefinitionFor attacker.weapon : WeaponDefinition R).damage

/-- The attacks that take place, in the order of the attackers. -/
def acceptedBy (actors : List (CombatActor R)) (intents : List AttackIntent) :
    List AttackIntent :=
  (sortByKey AttackIntent.attacker intents).filter (accepts actors)

/-- What is dealt to an actor. -/
def givenTo (actors : List (CombatActor R)) (intents : List AttackIntent)
    (victim : CombatActor R) : List DamageContribution :=
  ((acceptedBy actors intents).filter (hits actors victim)).map (contributionOf actors)

def totalOf (given : List DamageContribution) : Int :=
  (given.map DamageContribution.amount).sum

/-- The source of the largest contribution, the lowest of them on ties. -/
def IsPrimary (given : List DamageContribution) (source : ActorId) : Prop :=
  ∃ primary ∈ given, primary.source = source ∧ ∀ other ∈ given,
    other.amount < primary.amount ∨ other.amount = primary.amount ∧ source ≤ other.source

omit [Scalar R] in
theorem primarySource_isPrimary {given : List DamageContribution} {source : ActorId}
    (h : primarySource given = .ok source) : IsPrimary given source := by
  unfold primarySource at h
  cases hprimary : minElement contributesMore given with
  | none =>
    rw [hprimary] at h
    cases h
  | some primary =>
    rw [hprimary] at h
    obtain rfl := Except.ok.inj h
    refine ⟨primary, minElement_mem hprimary, rfl, fun other hother => ?_⟩
    -- No later one is preferred to what at least equals the other contribution.
    have hbest : contributesMore other primary = false := by
      refine minElement_prefers (p := fun c => contributesMore other c = false) ?_ ?_ hprimary
        ⟨other, hother, ?_⟩
      · intro first second hfirst hsecond
        unfold contributesMore at hfirst hsecond ⊢
        grind
      · intro first second hfirst hsecond
        unfold contributesMore at hfirst hsecond ⊢
        grind
      · simp [contributesMore]
    unfold contributesMore at hbest
    split at hbest
    next hdifferent =>
      have hle := not_lt.mp (of_decide_eq_false hbest)
      exact .inl (lt_of_le_of_ne hle hdifferent)
    next hequal => exact .inr ⟨not_not.mp hequal, not_lt.mp (of_decide_eq_false hbest)⟩

omit [Scalar R] in
theorem count_filter_ids {actors : List (CombatActor R)} (hdistinct : Distinct actors)
    (p : CombatActor R → Bool) {victim : CombatActor R} (hvictim : victim ∈ actors) :
    ((actors.filter p).map CombatActor.id).count victim.id = if p victim then 1 else 0 := by
  have hmem : victim.id ∈ (actors.filter p).map CombatActor.id ↔ p victim = true := by
    rw [List.mem_map]
    constructor
    · rintro ⟨actor, hactor, hid⟩
      obtain ⟨hactor, hp⟩ := List.mem_filter.mp hactor
      rwa [hdistinct.eq_of_id hactor hvictim hid] at hp
    · exact fun hp => ⟨victim, List.mem_filter.mpr ⟨hvictim, hp⟩, rfl⟩
  have hnodup : ((actors.filter p).map CombatActor.id).Nodup :=
    hdistinct.sublist (List.filter_sublist.map CombatActor.id)
  rw [hnodup.count]
  exact if_congr hmem rfl rfl

/-- The effect of an attack reaches each actor once. -/
theorem affectedTargets_count {actors : List (CombatActor R)} (hdistinct : Distinct actors)
    {attacker target victim : CombatActor R} {weapon : WeaponDefinition R}
    {targets : List ActorId} (hvictim : victim ∈ actors)
    (h : affectedTargets actors attacker target weapon = .ok targets) :
    targets.count victim.id = if (if Scalar.equal weapon.effectRadius 0 then
        decide (target.id = victim.id)
      else canTarget attacker victim && (victim.position.distance target.position).toOption.any
        fun distance => decide (distance ≤ weapon.effectRadius)) then 1 else 0 := by
  unfold affectedTargets at h
  split at h
  next hpoint =>
    obtain rfl := Except.ok.inj h
    rw [if_pos hpoint, List.count_singleton]
    exact if_congr (by rw [beq_iff_eq, decide_eq_true_iff]) rfl rfl
  next harea =>
    rw [if_neg harea]
    obtain ⟨reached, hreached, h⟩ := except_bind_eq_ok.mp h
    obtain rfl := Except.ok.inj h
    rw [except_filterM (within_error target.position _)] at hreached
    split at hreached
    next =>
      obtain rfl := Except.ok.inj hreached
      rw [List.filter_filter, count_filter_ids hdistinct _ hvictim]
      refine if_congr ?_ rfl rfl
      rw [Bool.and_comm]
      cases victim.position.distance target.position <;> rfl
    next => cases hreached

/-- Declaring the intents added what the state decides. -/
structure Declared (actors : List (CombatActor R)) (intents : List AttackIntent)
    (attacks attacks' : Attacks) : Prop where
  accepted : attacks'.acceptedIntents =
    attacks.acceptedIntents ++ intents.filter (accepts actors)
  given : ∀ victim ∈ actors, contributionsTo attacks'.contributions victim.id =
    contributionsTo attacks.contributions victim.id ++
      ((intents.filter (accepts actors)).filter (hits actors victim)).map (contributionOf actors)

theorem Declared.refused {actors : List (CombatActor R)} {intent : AttackIntent}
    (h : accepts actors intent = false) (attacks : Attacks) :
    Declared actors [intent] attacks attacks := by
  have hnone : [intent].filter (accepts actors) = [] := by
    rw [List.filter_singleton, h]
    rfl
  constructor
  · rw [hnone, List.append_nil]
  · intro victim _
    rw [hnone, List.filter_nil, List.map_nil, List.append_nil]

theorem Declared.append {actors : List (CombatActor R)} {first second : List AttackIntent}
    {attacks attacks' attacks'' : Attacks} (hfirst : Declared actors first attacks attacks')
    (hsecond : Declared actors second attacks' attacks'') :
    Declared actors (first ++ second) attacks attacks'' := by
  constructor
  · rw [hsecond.accepted, hfirst.accepted, List.filter_append, List.append_assoc]
  · intro victim hvictim
    rw [hsecond.given victim hvictim, hfirst.given victim hvictim, List.filter_append,
      List.filter_append, List.map_append, List.append_assoc]

theorem declareAttack_declared {actors : List (CombatActor R)} (hdistinct : Distinct actors)
    {attacks attacks' : Attacks} {intent : AttackIntent}
    (h : declareAttack actors attacks intent = .ok attacks') :
    Declared actors [intent] attacks attacks' := by
  unfold declareAttack at h
  split at h
  next attacker target hattacker htarget =>
    have haccepts : accepts actors intent = (attacker.alive &&
        attacker.cooldownTicksRemaining == 0 && canTarget attacker target &&
        (attacker.position.distance target.position).toOption.any fun distance =>
          !decide ((weaponDefinitionFor attacker.weapon : WeaponDefinition R).range <
            distance)) := by
      unfold accepts
      rw [hattacker, htarget]
    split at h
    next hidle =>
      obtain rfl := Except.ok.inj h
      refine Declared.refused ?_ attacks
      rw [haccepts]
      cases halive : attacker.alive <;>
        cases hcooldown : attacker.cooldownTicksRemaining == 0 <;>
          cases htargetable : canTarget attacker target <;>
            simp_all [bne]
    next hready =>
      obtain ⟨distance, hdistance, h⟩ := except_bind_eq_ok.mp h
      simp only [Bool.or_eq_true, not_or, Bool.not_eq_true', Bool.not_eq_false, bne_iff_ne,
        ne_eq, not_not] at hready
      obtain ⟨⟨halive, hcooldown⟩, htargetable⟩ := hready
      rw [halive, hcooldown, htargetable, hdistance] at haccepts
      split at h
      next hfar =>
        obtain rfl := Except.ok.inj h
        refine Declared.refused ?_ attacks
        rw [haccepts]
        simp [Except.toOption, hfar]
      next hnear =>
        have haccepted : accepts actors intent = true := by
          rw [haccepts]
          simp [Except.toOption, hnear]
        obtain ⟨targets, htargets, h⟩ := except_bind_eq_ok.mp h
        obtain rfl := Except.ok.inj h
        have hown : [intent].filter (accepts actors) = [intent] := by
          rw [List.filter_singleton, haccepted]
          rfl
        constructor
        · rw [hown]
        intro victim hvictim
        have hcount := affectedTargets_count hdistinct hvictim htargets
        have hcontribution : contributionOf actors intent =
            { source := attacker.id, amount :=
                (weaponDefinitionFor attacker.weapon : WeaponDefinition R).damage } := by
          unfold contributionOf
          rw [hattacker, (findActor_mem hattacker).2]
          rfl
        have hhits : hits actors victim intent = if Scalar.equal
            (weaponDefinitionFor attacker.weapon : WeaponDefinition R).effectRadius 0 then
              decide (target.id = victim.id)
            else canTarget attacker victim &&
              (victim.position.distance target.position).toOption.any fun distance =>
                decide (distance ≤
                  (weaponDefinitionFor attacker.weapon : WeaponDefinition R).effectRadius) := by
          unfold hits
          rw [hattacker, htarget]
        rw [contributionsTo_append, contributionsTo_strike, hcount, ← hhits, hown,
          List.filter_singleton]
        cases hits actors victim intent with
        | false => rfl
        | true =>
          rw [cond_true, List.map_singleton, hcontribution]
          rfl
  next hmissing =>
    obtain rfl := Except.ok.inj h
    refine Declared.refused ?_ attacks
    unfold accepts
    split
    next attacker target hattacker htarget =>
      exact absurd htarget (hmissing attacker target hattacker)
    next => rfl

theorem declareAttacks_declared {actors : List (CombatActor R)} {intents : List AttackIntent}
    {attacks : Attacks} (h : declareAttacks actors intents = .ok attacks) :
    attacks.acceptedIntents = acceptedBy actors intents ∧
      ∀ victim ∈ actors,
        contributionsTo attacks.contributions victim.id = givenTo actors intents victim := by
  obtain ⟨⟨⟩, hvalid, h⟩ := except_bind_eq_ok.mp h
  obtain ⟨⟨⟩, -, h⟩ := except_bind_eq_ok.mp h
  obtain ⟨-, -, hdistinct⟩ := validateActors_eq_ok.mp hvalid
  have hall (sorted : List AttackIntent) (declared : Attacks)
      (h : sorted.foldlM (declareAttack actors) declared = .ok attacks) :
      Declared actors sorted declared attacks := by
    induction sorted generalizing declared with
    | nil =>
      obtain rfl := Except.ok.inj h
      exact ⟨(List.append_nil _).symm, fun _ _ => (List.append_nil _).symm⟩
    | cons intent sorted ih =>
      rw [List.foldlM_cons] at h
      obtain ⟨next, hnext, h⟩ := except_bind_eq_ok.mp h
      exact (declareAttack_declared hdistinct hnext).append (ih next h)
  obtain ⟨haccepted, hgiven⟩ := hall _ _ h
  exact ⟨haccepted, hgiven⟩

/-! ## The records -/

omit [Scalar R] in
theorem findActor_updateActor_of_ne {actors : List (CombatActor R)} {id other : ActorId}
    (h : other ≠ id) {change : CombatActor R → CombatActor R}
    (hchange : ∀ actor, (change actor).id = actor.id) :
    findActor (updateActor actors id change) other = findActor actors other := by
  induction actors with
  | nil => rfl
  | cons actor actors ih =>
    have hhead : (if actor.id = id then change actor else actor).id = actor.id := by
      split
      · exact hchange actor
      · rfl
    rw [updateActor, List.map_cons, findActor, findActor, List.find?_cons, List.find?_cons, hhead]
    cases hsame : decide (actor.id = other) with
    | false => exact ih
    | true =>
      have hid : actor.id ≠ id := fun hid => h ((of_decide_eq_true hsame).symm.trans hid)
      rw [if_neg hid]

/-- The damage is all that the target had. -/
def fatal (actors : List (CombatActor R)) (record : DamageRecord) : Bool :=
  (findActor actors record.target).any fun target => decide (target.health - record.amount = 0)

/-- Each target has one record, of the least of its health and what it was dealt. -/
structure Recorded (contributions : List (ActorId × DamageContribution)) (ids : List ActorId)
    (actors : List (CombatActor R)) (damage : List DamageRecord) (deaths : List DeathRecord) :
    Prop where
  targets : damage.map DamageRecord.target = ids
  amounts : ∀ record ∈ damage, ∃ target ∈ actors, ∃ source,
    primarySource (contributionsTo contributions target.id) = .ok source ∧
      record = ⟨target.id, min target.health (totalOf (contributionsTo contributions target.id)),
        some source⟩
  deaths : deaths = (damage.filter (fatal actors)).map fun record =>
    ⟨record.target, record.primarySource⟩

omit [Scalar R] in
/-- The record of one target before those of the others. -/
theorem Recorded.cons {contributions : List (ActorId × DamageContribution)} {ids : List ActorId}
    {actors : List (CombatActor R)} {damage : List DamageRecord} {deaths : List DeathRecord}
    {target : CombatActor R} {source : ActorId} {amount : Int} (hdistinct : Distinct actors)
    (htarget : target ∈ actors)
    (hsource : primarySource (contributionsTo contributions target.id) = .ok source)
    (hamount : amount = min target.health (totalOf (contributionsTo contributions target.id)))
    (hfresh : target.id ∉ ids)
    (h : Recorded contributions ids (updateActor actors target.id (hurt amount)) damage deaths) :
    Recorded contributions (target.id :: ids) actors
      (⟨target.id, amount, some source⟩ :: damage)
      ((if target.health - amount = 0 then [⟨target.id, some source⟩] else []) ++ deaths) := by
  have hkeeps (actor : CombatActor R) : (hurt amount actor).id = actor.id := rfl
  have hother : ∀ record ∈ damage, record.target ≠ target.id := by
    intro record hrecord hsame
    refine hfresh (hsame ▸ h.targets ▸ ?_)
    exact List.mem_map_of_mem hrecord
  have hfatal : damage.filter (fatal (updateActor actors target.id (hurt amount))) =
      damage.filter (fatal actors) := by
    refine List.filter_congr fun record hrecord => ?_
    rw [fatal, findActor_updateActor_of_ne (hother record hrecord) hkeeps]
    rfl
  exact {
    targets := by rw [List.map_cons, h.targets]
    amounts := by
      refine List.forall_mem_cons.mpr ⟨⟨target, htarget, source, hsource, by rw [hamount]⟩, ?_⟩
      intro record hrecord
      obtain ⟨later, hlater, source, hsource, heq⟩ := h.amounts record hrecord
      obtain ⟨actor, hactor, hbefore⟩ := List.mem_map.mp hlater
      have hne : actor.id ≠ target.id := by
        intro hsame
        rw [if_pos hsame] at hbefore
        refine hother record hrecord ?_
        rw [heq, ← hbefore]
        exact hsame
      rw [if_neg hne] at hbefore
      obtain rfl := hbefore
      exact ⟨actor, hactor, source, hsource, heq⟩
    deaths := by
      have hown : fatal actors ⟨target.id, amount, some source⟩ =
          decide (target.health - amount = 0) := by
        rw [fatal, findActor_eq_some hdistinct htarget]
        rfl
      rw [h.deaths, hfatal, List.filter_cons, hown]
      by_cases hdead : target.health - amount = 0
      · rw [if_pos hdead, if_pos (decide_eq_true hdead)]
        rfl
      · rw [if_neg hdead, if_neg (by simpa using hdead)]
        rfl }

omit [Scalar R] in
theorem applyContributions_recorded {contributions : List (ActorId × DamageContribution)}
    {ids : List ActorId} {actors actors' : List (CombatActor R)}
    {resolution resolution' : CombatResolution} (hids : ids.Nodup)
    (hdistinct : Distinct actors) (hfound : ∀ id ∈ ids, ∃ target ∈ actors, target.id = id)
    (h : applyContributions contributions ids actors resolution = (actors', .ok resolution')) :
    ∃ damage deaths, resolution' = { resolution with
        damage := resolution.damage ++ damage, deaths := resolution.deaths ++ deaths } ∧
      Recorded contributions ids actors damage deaths := by
  induction ids generalizing actors resolution with
  | nil =>
    cases h
    exact ⟨[], [], by rw [List.append_nil, List.append_nil], rfl, nofun, rfl⟩
  | cons id ids ih =>
    obtain ⟨hfresh, hrest⟩ := List.nodup_cons.mp hids
    obtain ⟨target, htarget, rfl⟩ := hfound id List.mem_cons_self
    rw [applyContributions, findActor_eq_some hdistinct htarget] at h
    dsimp only at h
    split at h
    next => cases congrArg Prod.snd h
    next =>
      obtain ⟨source, hsource, h⟩ := attempt_eq_ok.mp h
      have hlater := hdistinct.updateActor target.id (hurt (min target.health
        ((contributionsTo contributions target.id).map DamageContribution.amount).sum))
          fun _ => rfl
      obtain ⟨damage, deaths, hresolution, hrecorded⟩ := ih hrest hlater
        (fun other hother => by
          obtain ⟨actor, hactor, hid⟩ := hfound other (List.mem_cons_of_mem _ hother)
          have hne : actor.id ≠ target.id := fun hsame =>
            hfresh (hsame ▸ hid ▸ hother)
          exact ⟨actor, List.mem_map.mpr ⟨actor, hactor, if_neg hne⟩, hid⟩) h
      refine ⟨_, _, ?_, hrecorded.cons hdistinct htarget hsource rfl hfresh⟩
      rw [hresolution, totalOf]
      dsimp only
      split
      next => rw [List.append_assoc, List.append_assoc]; rfl
      next => rw [List.append_assoc]; rfl

omit [Scalar R] in
/-- The cooldowns of the attackers do not show in the records. -/
theorem Recorded.cooled {contributions : List (ActorId × DamageContribution)}
    {ids : List ActorId} {actors actors' : List (CombatActor R)} {damage : List DamageRecord}
    {deaths : List DeathRecord} (hcooled : List.Forall₂ Cooled actors actors')
    (h : Recorded contributions ids actors' damage deaths) :
    Recorded contributions ids actors damage deaths := by
  have hhealth (id : ActorId) : (findActor actors' id).map CombatActor.health =
      (findActor actors id).map CombatActor.health := by
    clear h
    induction hcooled with
    | nil => rfl
    | @cons actor actor' actors actors' hhead htail ih =>
      have hid : actor'.id = actor.id := by rw [hhead]
      have hsame : actor'.health = actor.health := by rw [hhead]
      rw [findActor, findActor, List.find?_cons, List.find?_cons, hid]
      cases decide (actor.id = id) with
      | false => exact ih
      | true => exact congrArg some hsame
  have hfatal : fatal actors' = fatal actors := by
    funext record
    have hread (found : Option (CombatActor R)) :
        found.any (fun target => decide (target.health - record.amount = 0)) =
          (found.map CombatActor.health).any fun health => decide (health - record.amount = 0) := by
      cases found <;> rfl
    rw [fatal, fatal, hread, hread, hhealth]
  exact {
    targets := h.targets
    amounts := by
      intro record hrecord
      obtain ⟨target, htarget, source, hsource, heq⟩ := h.amounts record hrecord
      obtain ⟨before, hbefore, hpair⟩ := Aligned.mem_right hcooled htarget
      have hid : target.id = before.id := by rw [hpair]
      have hsame : target.health = before.health := by rw [hpair]
      rw [hid] at hsource heq
      rw [hsame] at heq
      exact ⟨before, hbefore, source, hsource, heq⟩
    deaths := by rw [h.deaths, hfatal] }

theorem resolveAttacks_recorded {actors actors' : List (CombatActor R)}
    {intents : List AttackIntent} {resolution : CombatResolution}
    (hdistinct : Distinct actors) (h : resolveAttacks actors intents = (actors', .ok resolution)) :
    ∃ attacks, declareAttacks actors intents = .ok attacks ∧
      resolution.acceptedIntents = attacks.acceptedIntents ∧
      Recorded attacks.contributions (targetsOf attacks.contributions) actors resolution.damage
        resolution.deaths := by
  obtain ⟨attacks, hattacks, h⟩ := attempt_eq_ok.mp h
  have hfair := declareAttacks_fair hattacks
  have hcooled := startCooldowns_cooled attacks.acceptedIntents actors
  generalize attacks.acceptedIntents.foldl (fun actors intent =>
    updateActor actors intent.attacker startCooldown) actors = attacking at h hcooled
  dsimp only at h
  generalize hstrike : applyContributions attacks.contributions
    (targetsOf attacks.contributions) attacking
    { acceptedIntents := attacks.acceptedIntents } = struck at h
  obtain ⟨struckActors, outcome⟩ := struck
  obtain ⟨dealt, rfl, h⟩ := attempt_eq_ok.mp h
  obtain ⟨⟨⟩, -, h⟩ := attempt_eq_ok.mp h
  cases h
  have hattacking : Distinct attacking := by
    rw [Distinct, Aligned.map_eq (fun _ _ hpair => by rw [hpair]) hcooled]
    exact hdistinct
  have hfound : ∀ id ∈ targetsOf attacks.contributions, ∃ target ∈ attacking, target.id = id := by
    intro id hid
    obtain ⟨contribution, hcontribution, rfl⟩ := mem_targetsOf hid
    obtain ⟨target, htarget, hsame, -⟩ := (hfair contribution hcontribution).target
    obtain ⟨later, hlater, hpair⟩ := Aligned.mem_left hcooled htarget
    exact ⟨later, hlater, by rw [hpair]; exact hsame⟩
  obtain ⟨damage, deaths, rfl, hrecorded⟩ :=
    applyContributions_recorded (targetsOf_nodup _) hattacking hfound hstrike
  exact ⟨attacks, hattacks, rfl, hrecorded.cooled hcooled⟩

/-! ## What becomes of an actor -/

omit [Scalar R] in
theorem filter_key {α κ : Type} [DecidableEq κ] {key : α → κ} {l : List α}
    (hnodup : (l.map key).Nodup) {a : α} (ha : a ∈ l) :
    l.filter (fun b => key b = key a) = [a] := by
  induction l with
  | nil => cases ha
  | cons b l ih =>
    obtain ⟨hfresh, hnodup⟩ := List.nodup_cons.mp hnodup
    rcases List.mem_cons.mp ha with rfl | hlater
    · have hnone : l.filter (fun b => key b = key a) = [] := by
        refine List.filter_eq_nil_iff.mpr fun b hb hkey => hfresh ?_
        rw [← of_decide_eq_true hkey]
        exact List.mem_map_of_mem hb
      rw [List.filter_cons, if_pos (decide_eq_true rfl), hnone]
    · have hne : key b ≠ key a := fun hkey => hfresh (hkey ▸ List.mem_map_of_mem hlater)
      rw [List.filter_cons, if_neg (by simpa using hne), ih hnodup hlater]

/-- The records about an actor, and what the attacks did to it. -/
structure Fate (actors : List (CombatActor R)) (intents : List AttackIntent)
    (resolution : CombatResolution) (before after : CombatActor R) : Prop where
  id : after.id = before.id
  role : after.role = before.role
  position : after.position = before.position
  weapon : after.weapon = before.weapon
  /-- Its health is reduced by what it is dealt, as far as it goes. -/
  health : after.health =
    before.health - min before.health (totalOf (givenTo actors intents before))
  /-- It has no record, or a single one of what it lost. -/
  records : givenTo actors intents before = [] ∧
      resolution.damage.filter (fun record => record.target = before.id) = [] ∧
      resolution.deaths.filter (fun record => record.victim = before.id) = [] ∨
    ∃ source, IsPrimary (givenTo actors intents before) source ∧
      resolution.damage.filter (fun record => record.target = before.id) =
        [⟨before.id, before.health - after.health, some source⟩] ∧
      resolution.deaths.filter (fun record => record.victim = before.id) =
        if after.health = 0 then [⟨before.id, some source⟩] else []
  alive : after.alive = decide (0 < after.health)
  eliminations : after.eliminations.toNat =
    before.eliminations.toNat + creditCount before.id resolution.deaths

omit [Scalar R] in
theorem Recorded.fate {contributions : List (ActorId × DamageContribution)}
    {actors : List (CombatActor R)} {damage : List DamageRecord} {deaths : List DeathRecord}
    (hdistinct : Distinct actors)
    (h : Recorded contributions (targetsOf contributions) actors damage deaths)
    {before : CombatActor R} (hbefore : before ∈ actors) :
    contributionsTo contributions before.id = [] ∧
        damage.filter (fun record => record.target = before.id) = [] ∧
        deaths.filter (fun record => record.victim = before.id) = [] ∨
      ∃ source, primarySource (contributionsTo contributions before.id) = .ok source ∧
        damage.filter (fun record => record.target = before.id) = [⟨before.id, min before.health
          (totalOf (contributionsTo contributions before.id)), some source⟩] ∧
        deaths.filter (fun record => record.victim = before.id) =
          if before.health - min before.health
            (totalOf (contributionsTo contributions before.id)) = 0 then
              [⟨before.id, some source⟩] else [] := by
  have hdeaths : deaths.filter (fun record => record.victim = before.id) =
      ((damage.filter fun record => record.target = before.id).filter (fatal actors)).map
        fun record => ⟨record.target, record.primarySource⟩ := by
    rw [h.deaths, List.filter_map, List.filter_filter, List.filter_filter]
    refine congrArg _ (List.filter_congr fun record _ => ?_)
    rw [Bool.and_comm]
    rfl
  rw [hdeaths]
  by_cases hnone : contributionsTo contributions before.id = []
  · have hrecords : damage.filter (fun record => record.target = before.id) = [] := by
      refine List.filter_eq_nil_iff.mpr fun record hrecord hsame => ?_
      have hmem : record.target ∈ targetsOf contributions :=
        h.targets ▸ List.mem_map_of_mem hrecord
      rw [of_decide_eq_true hsame] at hmem
      exact mem_targetsOf_iff.mp hmem hnone
    rw [hrecords]
    exact .inl ⟨hnone, rfl, rfl⟩
  · have hmem : before.id ∈ damage.map DamageRecord.target := by
      rw [h.targets]
      exact mem_targetsOf_iff.mpr hnone
    obtain ⟨record, hrecord, hsame⟩ := List.mem_map.mp hmem
    obtain ⟨target, htarget, source, hsource, rfl⟩ := h.amounts record hrecord
    obtain rfl := hdistinct.eq_of_id htarget hbefore hsame
    have hnodup : (damage.map DamageRecord.target).Nodup := h.targets ▸ targetsOf_nodup _
    have hown := filter_key hnodup hrecord
    refine .inr ⟨source, hsource, hown, ?_⟩
    rw [hown, List.filter_singleton, fatal, findActor_eq_some hdistinct htarget, Option.any_some]
    by_cases hdead : target.health - min target.health
        (totalOf (contributionsTo contributions target.id)) = 0
    · rw [if_pos hdead, decide_eq_true hdead]
      rfl
    · rw [if_neg hdead, decide_eq_false hdead]
      rfl

omit [Scalar R] in
/-- Every death that has a killer among the actors is credited once. -/
theorem sum_creditCount {actors : List (CombatActor R)} (hdistinct : Distinct actors)
    (deaths : List DeathRecord)
    (hkillers : ∀ death ∈ deaths, ∀ id, death.killer = some id →
      ∃ killer ∈ actors, killer.id = id) :
    (actors.map fun actor => creditCount actor.id deaths).sum =
      deaths.countP fun death => death.killer.isSome := by
  induction deaths with
  | nil =>
    refine List.sum_eq_zero fun count hcount => ?_
    obtain ⟨actor, -, rfl⟩ := List.mem_map.mp hcount
    rfl
  | cons death deaths ih =>
    have hsplit : (actors.map fun actor => creditCount actor.id (death :: deaths)) =
        actors.map fun actor => creditCount actor.id deaths +
          if death.killer = some actor.id then 1 else 0 := by
      refine List.map_congr_left fun actor _ => ?_
      rw [creditCount, List.countP_cons]
      exact congrArg _ (if_congr decide_eq_true_iff rfl rfl)
    rw [hsplit, List.sum_map_add, List.countP_cons,
      ih fun later hlater => hkillers later (List.mem_cons_of_mem death hlater)]
    refine congrArg _ ?_
    cases hkiller : death.killer with
    | none => simp
    | some id =>
      obtain ⟨killer, hmem, rfl⟩ := hkillers death List.mem_cons_self id hkiller
      have hone : (actors.map CombatActor.id).count killer.id = 1 :=
        List.count_eq_one_of_mem hdistinct (List.mem_map_of_mem hmem)
      have hcount (ids : List ActorId) :
          (ids.map fun id => if some killer.id = some id then 1 else 0).sum =
            ids.count killer.id := by
        induction ids with
        | nil => rfl
        | cons id ids ih =>
          rw [List.map_cons, List.sum_cons, ih, List.count_cons, Nat.add_comm]
          refine congrArg _ (if_congr ?_ rfl rfl)
          rw [Option.some_inj, beq_iff_eq]
          exact eq_comm
      have hsum := hcount (actors.map CombatActor.id)
      rw [hone, List.map_map] at hsum
      exact hsum

/-- What the attacks of a tick do, decided on the state before them. -/
structure Resolved (actors actors' : List (CombatActor R)) (intents : List AttackIntent)
    (resolution : CombatResolution) : Prop where
  accepted : resolution.acceptedIntents = acceptedBy actors intents
  fates : List.Forall₂ (Fate actors intents resolution) actors actors'
  credits : (actors'.map fun actor => actor.eliminations.toNat).sum =
    (actors.map fun actor => actor.eliminations.toNat).sum +
      resolution.deaths.countP fun death => death.killer.isSome

theorem givenTo_source {actors : List (CombatActor R)} {intents : List AttackIntent}
    {victim : CombatActor R} {contribution : DamageContribution}
    (h : contribution ∈ givenTo actors intents victim) :
    ∃ attacker ∈ actors, attacker.id = contribution.source := by
  obtain ⟨intent, hintent, rfl⟩ := List.mem_map.mp h
  obtain ⟨hintent, -⟩ := List.mem_filter.mp hintent
  obtain ⟨-, haccepts⟩ := List.mem_filter.mp hintent
  unfold accepts at haccepts
  split at haccepts
  next attacker target hattacker htarget =>
    obtain ⟨hmem, hid⟩ := findActor_mem hattacker
    exact ⟨attacker, hmem, hid⟩
  next => cases haccepts

theorem resolveAttacks_resolved {actors actors' : List (CombatActor R)}
    {intents : List AttackIntent} {resolution : CombatResolution}
    (hactors : validateActors [] actors = .ok ())
    (h : resolveAttacks actors intents = (actors', .ok resolution)) :
    Resolved actors actors' intents resolution := by
  obtain ⟨hvalid, -, hdistinct⟩ := validateActors_eq_ok.mp hactors
  have hhealthy : ∀ actor ∈ actors, Healthy actor :=
    fun actor hactor => isValid_healthy (hvalid actor hactor)
  obtain ⟨attacks, hattacks, haccepted, hrecorded⟩ := resolveAttacks_recorded hdistinct h
  obtain ⟨hdeclared, hgiven⟩ := declareAttacks_declared hattacks
  have hfought := resolveAttacks_fought hdistinct hhealthy h
  have hafter : List.Forall₂ (fun before after => FoughtActor resolution before after ∧
      Healthy after) actors actors' :=
    (Aligned.imp_mem hfought.fought.flip fun after hmem before hpair =>
      ⟨hpair, hfought.healthy after hmem⟩).flip
  have hfates : List.Forall₂ (Fate actors intents resolution) actors actors' := by
    refine Aligned.imp_mem hafter fun before hbefore after hpair => ?_
    obtain ⟨hactor, hhealthyAfter⟩ := hpair
    have hrecords := hrecorded.fate hdistinct hbefore
    rw [hgiven before hbefore] at hrecords
    have hnonneg := (hhealthy before hbefore).nonneg
    have hhealth : after.health =
        before.health - min before.health (totalOf (givenTo actors intents before)) := by
      rw [hactor.health, dealtTo]
      rcases hrecords with ⟨hnone, hdamage, -⟩ | ⟨source, -, hdamage, -⟩
      · rw [hdamage, hnone]
        show before.health - 0 = before.health - min before.health 0
        omega
      · rw [hdamage]
        exact congrArg (before.health - ·) (Int.add_zero _)
    exact {
      id := hactor.id
      role := hactor.role
      position := hactor.position
      weapon := hactor.weapon
      health := hhealth
      records := by
        rcases hrecords with ⟨hnone, hdamage, hdeaths⟩ | ⟨source, hsource, hdamage, hdeaths⟩
        · exact .inl ⟨hnone, hdamage, hdeaths⟩
        · have hlost : min before.health (totalOf (givenTo actors intents before)) =
              before.health - after.health := by omega
          rw [← hhealth] at hdeaths
          rw [hlost] at hdamage
          exact .inr ⟨source, primarySource_isPrimary hsource, hdamage, hdeaths⟩
      alive := Bool.eq_iff_iff.mpr (hhealthyAfter.alive.trans decide_eq_true_iff.symm)
      eliminations := hactor.eliminations }
  have hsum : (actors'.map fun actor => actor.eliminations.toNat) =
      actors.map fun actor => actor.eliminations.toNat + creditCount actor.id resolution.deaths :=
    Aligned.map_eq (fun _ _ hfate => hfate.eliminations) hfates
  have hkillers : ∀ death ∈ resolution.deaths, ∀ id, death.killer = some id →
      ∃ killer ∈ actors, killer.id = id := by
    intro death hdeath id hkiller
    rw [hrecorded.deaths] at hdeath
    obtain ⟨record, hrecord, rfl⟩ := List.mem_map.mp hdeath
    obtain ⟨target, htarget, source, hsource, rfl⟩ :=
      hrecorded.amounts record (List.mem_filter.mp hrecord).1
    obtain rfl := Option.some.inj hkiller
    obtain ⟨primary, hprimary, rfl, -⟩ := primarySource_isPrimary hsource
    rw [hgiven target htarget] at hprimary
    exact givenTo_source hprimary
  refine ⟨haccepted.trans hdeclared, hfates, ?_⟩
  rw [hsum, List.sum_map_add, sum_creditCount hdistinct resolution.deaths hkillers]

/-- Attacks are resolved at the same time: no order matters, and what becomes of each actor is
decided on the state before. -/
theorem resolveAttacks_simultaneous {actors : List (CombatActor R)} {intents : List AttackIntent}
    (hactors : validateActors [] actors = .ok ())
    (hunique : (intents.map AttackIntent.attacker).Nodup) :
    (∀ actors' intents', actors'.Perm actors → intents'.Perm intents →
      (resolveAttacks actors' intents').2 = (resolveAttacks actors intents).2 ∧
        (resolveAttacks actors' intents').1.Perm (resolveAttacks actors intents).1) ∧
      ∀ resolution, (resolveAttacks actors intents).2 = .ok resolution →
        Resolved actors (resolveAttacks actors intents).1 intents resolution := by
  constructor
  · intro actors' intents' hperm hintents
    have hsame := resolveAttacks_perm hactors hunique hperm hintents
    exact ⟨hsame.outcome, hsame.actors⟩
  · intro resolution hresolution
    exact resolveAttacks_resolved hactors (Prod.ext rfl hresolution)

/-- Two contenders that strike each other down. -/
def duellists : List (CombatActor Float32) :=
  [{ id := 1, role := .contender, position := ⟨0, 0⟩, health := 20 },
    { id := 2, role := .contender, position := ⟨1, 0⟩, health := 20 }]

theorem resolveAttacks_simultaneous_duel :
    (resolveAttacks duellists.reverse [⟨2, 1⟩, ⟨1, 2⟩]).1.Perm
        (resolveAttacks duellists [⟨1, 2⟩, ⟨2, 1⟩]).1 ∧
      ∃ resolution, (resolveAttacks duellists [⟨1, 2⟩, ⟨2, 1⟩]).2 = .ok resolution ∧
        Resolved duellists (resolveAttacks duellists [⟨1, 2⟩, ⟨2, 1⟩]).1 [⟨1, 2⟩, ⟨2, 1⟩]
          resolution := by
  have hvalid : validateActors [] duellists = .ok () := by decide +kernel
  have hunique : ([⟨1, 2⟩, ⟨2, 1⟩].map AttackIntent.attacker).Nodup := by decide
  obtain ⟨hperm, hresolved⟩ := resolveAttacks_simultaneous hvalid hunique
  have hreturns : (resolveAttacks duellists [⟨1, 2⟩, ⟨2, 1⟩]).2.toOption.isSome = true := by
    decide +kernel
  have hresolution := except_eq_ok_get hreturns
  exact ⟨(hperm _ _ (List.reverse_perm _) (List.Perm.swap _ _ _)).2, _, hresolution,
    hresolved _ hresolution⟩

end Decided

end SurvivalArena
