import SurvivalArena.Simulation.SimultaneousCombat

/-!
# What the safe zone does to the actors

On every whole second the zone hurts the living actors outside of it, each by its own event, and
leaves a contender alive: if it would kill all of them, the one that ranks first keeps a health of
one.
-/

namespace SurvivalArena

/-! ## The damage, actor by actor -/

section Harm

variable {R : Type} [Precision R]

/-- The actor is found to be outside. -/
def outsideZone (zone : SafeZoneState R) (actor : CombatActor R) : Bool :=
  (isOutsideSafeZone actor.position zone).toOption.getD false

/-- The actor lives and is outside. -/
def exposed (zone : SafeZoneState R) (actor : CombatActor R) : Bool :=
  actor.alive && outsideZone zone actor

def harm (zone : SafeZoneState R) (damage : Int) (protectedActor : Option ActorId)
    (actor : CombatActor R) : CombatActor R :=
  if exposed zone actor then hurtByZone (zoneHealth protectedActor damage actor) actor else actor

def harmEvents (zone : SafeZoneState R) (tick : UInt32) (damage : Int)
    (protectedActor : Option ActorId) (actor : CombatActor R) : List MatchEvent :=
  if exposed zone actor then zoneEvents tick actor (zoneHealth protectedActor damage actor)
  else []

/-- A contender that the damage alone leaves alive. -/
def outlasts (zone : SafeZoneState R) (damage : Int) (actor : CombatActor R) : Bool :=
  actor.contends && (!outsideZone zone actor || decide (damage < actor.health))

variable {zone : SafeZoneState R} {actors : List (CombatActor R)}

theorem outsideZone_eq {actor : CombatActor R} {outside : Bool}
    (h : isOutsideSafeZone actor.position zone = .ok outside) :
    outsideZone zone actor = outside := by
  rw [outsideZone, h]
  rfl

/-- Where every position can be looked up, each actor is hurt on its own. -/
theorem hurtOutside_eq (h : ∀ actor ∈ actors, ∃ outside,
      isOutsideSafeZone actor.position zone = .ok outside) (tick : UInt32) (damage : Int)
    (protectedActor : Option ActorId) :
    hurtOutside zone tick damage protectedActor actors =
      (actors.map (harm zone damage protectedActor),
        .ok (actors.flatMap (harmEvents zone tick damage protectedActor))) := by
  induction actors with
  | nil => rfl
  | cons actor actors ih =>
    obtain ⟨⟨outside, houtside⟩, hothers⟩ := List.forall_mem_cons.mp h
    rw [hurtOutside, ih hothers, List.map_cons, List.flatMap_cons]
    by_cases halive : actor.alive = true
    · rw [if_neg (by rw [halive]; decide), houtside]
      cases outside with
      | false =>
        have hsafe : exposed zone actor = false := by
          rw [exposed, outsideZone_eq houtside, Bool.and_false]
        rw [harm, harmEvents, hsafe]
        rfl
      | true =>
        have hexposed : exposed zone actor = true := by
          rw [exposed, outsideZone_eq houtside, halive, Bool.and_true]
        rw [harm, harmEvents, hexposed]
        rfl
    · have hsafe : exposed zone actor = false := by
        rw [exposed, Bool.eq_false_iff.mpr halive, Bool.false_and]
      rw [Bool.eq_false_iff.mpr halive, harm, harmEvents, hsafe]
      rfl

theorem countZoneSurvivors_eq (h : ∀ actor ∈ actors, ∃ outside,
      isOutsideSafeZone actor.position zone = .ok outside) (damage : Int) :
    countZoneSurvivors zone damage actors = .ok (actors.countP (outlasts zone damage)) := by
  induction actors with
  | nil => rfl
  | cons actor actors ih =>
    obtain ⟨⟨outside, houtside⟩, hothers⟩ := List.forall_mem_cons.mp h
    rw [countZoneSurvivors, ih hothers, List.countP_cons]
    by_cases hcontends : actor.contends = true
    · rw [if_pos hcontends, houtside]
      have houtlasts : outlasts zone damage actor =
          (!outside || decide (damage < actor.health)) := by
        rw [outlasts, hcontends, outsideZone_eq houtside, Bool.true_and]
      rw [houtlasts]
      show Except.ok (if _ then _ else _) = _
      split_ifs <;> rfl
    · have houtlasts : outlasts zone damage actor = false := by
        rw [outlasts, Bool.eq_false_iff.mpr hcontends, Bool.false_and]
      rw [if_neg hcontends, houtlasts]
      rfl

end Harm

/-! ## The contender that ranks first -/

section Winner

variable {R : Type} [Scalar R]

def rankInput (actor : CombatActor R) : ContenderRankInput where
  id := actor.id
  alive := actor.alive
  health := actor.health
  eliminations := actor.eliminations

omit [Scalar R] in
theorem checkContenders_ok {ids : List ActorId} {ranks : List ContenderRankInput}
    (hhealth : ∀ rank ∈ ranks, 0 ≤ rank.health) (hfresh : ∀ rank ∈ ranks, rank.id ∉ ids)
    (hdistinct : (ranks.map ContenderRankInput.id).Nodup) :
    checkContenders ids ranks = .ok () := by
  induction ranks generalizing ids with
  | nil => rfl
  | cons rank ranks ih =>
    rw [List.forall_mem_cons] at hhealth hfresh
    rw [List.map_cons, List.nodup_cons] at hdistinct
    rw [checkContenders, throwIf_bind_eq_ok, throwIf_bind_eq_ok]
    refine ⟨decide_eq_false hhealth.1.not_gt, decide_eq_false hfresh.1,
      ih hhealth.2 (fun other hother hid => ?_) hdistinct.2⟩
    rcases List.mem_cons.mp hid with hsame | hearlier
    · exact hdistinct.1 (hsame ▸ List.mem_map_of_mem hother)
    · exact hfresh.2 other hother hearlier

def rankInputs (actors : List (CombatActor R)) : List ContenderRankInput :=
  (actors.filter CombatActor.isContender).map rankInput

omit [Scalar R] in
theorem rankInput_mem {actors : List (CombatActor R)} {actor : CombatActor R}
    (hactor : actor ∈ actors) (hcontends : actor.contends = true) :
    rankInput actor ∈ rankInputs actors :=
  List.mem_map_of_mem (List.mem_filter.mpr ⟨hactor, (Bool.and_eq_true_iff.mp hcontends).1⟩)

omit [Scalar R] in
theorem buildContenderRanks_eq {actors : List (CombatActor R)}
    (hcontends : ∃ actor ∈ actors, actor.contends = true) :
    buildContenderRanks actors = .ok (rankInputs actors) := by
  obtain ⟨actor, hactor, hcontends⟩ := hcontends
  exact throwIf_bind_eq_ok.mpr ⟨List.isEmpty_eq_false_iff.mpr
    (List.ne_nil_of_mem (rankInput_mem hactor hcontends)), rfl⟩

omit [Scalar R] in
/-- While a contender lives, the one that ranks first lives. -/
theorem selectSurvivalWinner_contends {actors : List (CombatActor R)} {winner : ActorId}
    (hcontends : ∃ actor ∈ actors, actor.contends = true)
    (h : selectSurvivalWinner (rankInputs actors) = .ok winner) :
    ∃ actor ∈ actors, actor.contends = true ∧ actor.id = winner := by
  obtain ⟨living, hliving, hcontends⟩ := hcontends
  have hmem := rankInput_mem hliving hcontends
  obtain ⟨first, hfirst⟩ : ∃ first, minElement ranksBefore (rankInputs actors) = some first :=
    minElement_isSome (List.ne_nil_of_mem hmem)
  have hlives : first.alive = true := by
    refine minElement_prefers (p := fun rank => rank.alive = true) ?_ ?_ hfirst
      ⟨_, hmem, (Bool.and_eq_true_iff.mp hcontends).2⟩
    · intro rank other halive hdead
      have hdiffer : rank.alive ≠ other.alive := fun hsame => hdead (hsame.symm.trans halive)
      rwa [ranksBefore, if_pos hdiffer]
    · intro rank other hbefore halive
      by_cases hsame : rank.alive = other.alive
      · exact hsame.trans halive
      · rwa [ranksBefore, if_pos hsame] at hbefore
  obtain ⟨actor, hactor, hrank⟩ := List.mem_map.mp (minElement_mem hfirst)
  obtain ⟨hactor, hrole⟩ := List.mem_filter.mp hactor
  rw [selectSurvivalWinner, hfirst] at h
  obtain ⟨⟨⟩, -, h⟩ := except_bind_eq_ok.mp h
  have hwinner : first.id = winner := Except.ok.inj h
  rw [← hrank] at hlives hwinner
  exact ⟨actor, hactor, Bool.and_eq_true_iff.mpr ⟨hrole, hlives⟩, hwinner⟩

theorem selectSurvivalWinner_exists {actors : List (CombatActor R)}
    (hvalid : validateActors [] actors = .ok ())
    (hcontends : ∃ actor ∈ actors, actor.contends = true) :
    ∃ winner, selectSurvivalWinner (rankInputs actors) = .ok winner := by
  obtain ⟨hvalid, -, hdistinct⟩ := validateActors_eq_ok.mp hvalid
  obtain ⟨living, hliving, hcontends⟩ := hcontends
  obtain ⟨first, hfirst⟩ : ∃ first, minElement ranksBefore (rankInputs actors) = some first :=
    minElement_isSome (List.ne_nil_of_mem (rankInput_mem hliving hcontends))
  have hchecked : checkContenders [] (rankInputs actors) = .ok () := by
    refine checkContenders_ok (List.forall_mem_map.mpr fun other hother => ?_) nofun ?_
    · exact (isValid_healthy (hvalid other (List.mem_filter.mp hother).1)).nonneg
    · rw [rankInputs, List.map_map]
      exact hdistinct.sublist (List.filter_sublist.map _)
  refine ⟨first.id, ?_⟩
  rw [selectSurvivalWinner, hfirst]
  exact except_bind_eq_ok.mpr ⟨(), hchecked, rfl⟩

end Winner

/-! ## A tick of the zone -/

section Outcome

/-- The entries of one among many, told apart by its key. -/
theorem filter_flatMap_key {α β κ : Type} [DecidableEq κ] {entries : α → List β} {key : α → κ}
    {about : β → κ} (habout : ∀ a, ∀ b ∈ entries a, about b = key a) {as : List α}
    (hdistinct : (as.map key).Nodup) {a : α} (ha : a ∈ as) :
    (as.flatMap entries).filter (fun b => about b = key a) = entries a := by
  have hown : (entries a).filter (fun b => about b = key a) = entries a :=
    List.filter_eq_self.mpr fun b hb => decide_eq_true (habout a b hb)
  have hother : ∀ {others : List α}, key a ∉ others.map key →
      (others.flatMap entries).filter (fun b => about b = key a) = [] := by
    intro others hnot
    refine List.filter_eq_nil_iff.mpr fun b hb => ?_
    obtain ⟨other, hother, hb⟩ := List.mem_flatMap.mp hb
    rw [decide_eq_true_eq, habout other b hb]
    exact fun hsame => hnot (hsame ▸ List.mem_map_of_mem hother)
  induction as with
  | nil => cases ha
  | cons first others ih =>
    obtain ⟨hfirst, hdistinct⟩ := List.nodup_cons.mp hdistinct
    rw [List.flatMap_cons, List.filter_append]
    rcases List.mem_cons.mp ha with rfl | hlater
    · rw [hown, hother hfirst, List.append_nil]
    · have hnone : (entries first).filter (fun b => about b = key a) = [] := by
        refine List.filter_eq_nil_iff.mpr fun b hb => ?_
        rw [decide_eq_true_eq, habout first b hb]
        exact fun hsame => hfirst (hsame ▸ List.mem_map_of_mem hlater)
      rw [hnone, ih hdistinct hlater, List.nil_append]

variable {R : Type} [Precision R]

omit [Precision R] in
/-- What an exposed actor loses: the damage or all of its health, whichever is less, and all but
one if it is protected. -/
def zoneLoss (damage : Int) (protectedActor : Option ActorId) (actor : CombatActor R) : Int :=
  if protectedActor = some actor.id ∧ actor.isContender then actor.health - 1
  else min damage actor.health

/-- What becomes of an actor in a tick of the zone, and the events about it. -/
structure ZoneOutcome (zone : SafeZoneState R) (tick tickRate : UInt32)
    (protectedActor : Option ActorId) (events : List MatchEvent) (before after : CombatActor R) :
    Prop where
  spared : ¬(tick ≠ 0 ∧ tick % tickRate = 0 ∧ before.alive = true ∧
      isOutsideSafeZone before.position zone = .ok true) →
    after = before ∧ events.filter (fun event => event.actor = before.id) = []
  harmed : ∀ loss, loss = zoneLoss zone.damagePerSecond protectedActor before →
    tick ≠ 0 → tick % tickRate = 0 → before.alive = true →
    isOutsideSafeZone before.position zone = .ok true →
    after = { before with health := before.health - loss, alive := before.health != loss } ∧
      events.filter (fun event => event.actor = before.id) =
        (if 0 < loss then
            [{ tick, type := .damageApplied, actor := before.id, amount := loss }]
          else []) ++
        if before.health = loss then [{ tick, type := .actorDied, actor := before.id }] else []

omit [Precision R] in
theorem zoneHealth_eq (damage : Int) (protectedActor : Option ActorId) {actor : CombatActor R} :
    zoneHealth protectedActor damage actor =
      actor.health - zoneLoss damage protectedActor actor := by
  unfold zoneHealth zoneLoss
  split <;> omega

theorem exposed_iff {zone : SafeZoneState R} {actor : CombatActor R}
    (h : ∃ outside, isOutsideSafeZone actor.position zone = .ok outside) :
    exposed zone actor = true ↔
      actor.alive = true ∧ isOutsideSafeZone actor.position zone = .ok true := by
  obtain ⟨outside, houtside⟩ := h
  rw [exposed, Bool.and_eq_true, outsideZone_eq houtside, houtside, Except.ok.injEq]

theorem harmEvents_actor {zone : SafeZoneState R} {tick : UInt32} {damage : Int}
    {protectedActor : Option ActorId} (actor : CombatActor R) :
    ∀ event ∈ harmEvents zone tick damage protectedActor actor, event.actor = actor.id := by
  intro event hevent
  unfold harmEvents at hevent
  split at hevent
  · exact (mem_zoneEvents hevent).1.1
  · cases hevent

/-- A whole second of the zone, actor by actor. -/
theorem harm_outcome {zone : SafeZoneState R} {tick tickRate : UInt32}
    (hsecond : tick ≠ 0 ∧ tick % tickRate = 0) (protectedActor : Option ActorId)
    {actors : List (CombatActor R)} (hdistinct : Distinct actors)
    (hread : ∀ actor ∈ actors, ∃ outside, isOutsideSafeZone actor.position zone = .ok outside) :
    List.Forall₂ (ZoneOutcome zone tick tickRate protectedActor
        (actors.flatMap (harmEvents zone tick zone.damagePerSecond protectedActor)))
      actors (actors.map (harm zone zone.damagePerSecond protectedActor)) := by
  refine Aligned.map fun actor hactor => ?_
  have hevents : (actors.flatMap (harmEvents zone tick zone.damagePerSecond protectedActor)).filter
      (fun event => event.actor = actor.id) =
        harmEvents zone tick zone.damagePerSecond protectedActor actor :=
    filter_flatMap_key harmEvents_actor hdistinct hactor
  constructor
  · intro hspared
    have hsafe : exposed zone actor = false := Bool.eq_false_iff.mpr fun hexposed =>
      hspared ⟨hsecond.1, hsecond.2, (exposed_iff (hread actor hactor)).mp hexposed⟩
    rw [hevents, harm, harmEvents, hsafe]
    exact ⟨rfl, rfl⟩
  · rintro loss rfl - - halive houtside
    have hexposed := (exposed_iff (hread actor hactor)).mpr ⟨halive, houtside⟩
    rw [hevents, harm, harmEvents, if_pos hexposed, if_pos hexposed, zoneHealth_eq]
    constructor
    · unfold hurtByZone
      congr 1
      by_cases hdead : actor.health = zoneLoss zone.damagePerSecond protectedActor actor
      · rw [if_pos (sub_eq_zero.mpr hdead), bne_eq_false_iff_eq.mpr hdead]
      · rw [if_neg (mt sub_eq_zero.mp hdead), bne_iff_ne.mpr hdead, halive]
    · rw [zoneEvents, sub_sub_cancel]
      simp only [sub_eq_zero]

/-- The contender that the damage alone would not leave alive is exposed to all of it. -/
theorem outlasts_eq_false {zone : SafeZoneState R} {damage : Int} {actor : CombatActor R}
    (hread : ∃ outside, isOutsideSafeZone actor.position zone = .ok outside)
    (hcontends : actor.contends = true) (h : ¬outlasts zone damage actor = true) :
    isOutsideSafeZone actor.position zone = .ok true ∧ actor.health ≤ damage := by
  obtain ⟨outside, houtside⟩ := hread
  rw [outlasts, hcontends, outsideZone_eq houtside, Bool.true_and, Bool.or_eq_true, not_or,
    decide_eq_true_eq, not_lt, Bool.not_eq_true', Bool.not_eq_false] at h
  exact ⟨h.1 ▸ houtside, h.2⟩

/-- A contender stays in the fight if the damage leaves it alive or it is protected. -/
theorem harm_contends {zone : SafeZoneState R} {damage : Int} {protectedActor : Option ActorId}
    {actor : CombatActor R} (hcontends : actor.contends = true)
    (h : outlasts zone damage actor = true ∨ protectedActor = some actor.id) :
    (harm zone damage protectedActor actor).contends = true := by
  unfold harm
  by_cases hexposed : exposed zone actor = true
  · have houtside := (Bool.and_eq_true_iff.mp hexposed).2
    have hlives : zoneHealth protectedActor damage actor ≠ 0 := by
      unfold zoneHealth
      rcases h with houtlasts | hprotected
      · have hsturdy : damage < actor.health := by
          simpa [outlasts, hcontends, houtside] using houtlasts
        split <;> omega
      · rw [if_pos ⟨hprotected, (Bool.and_eq_true_iff.mp hcontends).1⟩]
        exact one_ne_zero
    rw [if_pos hexposed, hurtByZone, if_neg hlives]
    exact hcontends
  · rwa [if_neg hexposed]

theorem safeZoneDamageForTick_eq {tick tickRate : UInt32} {zone : SafeZoneState R}
    (hrate : tickRate ≠ 0) (h : evaluateSafeZone tick tickRate = .ok zone) :
    safeZoneDamageForTick R tick tickRate =
      .ok (if tick = 0 ∨ tick % tickRate ≠ 0 then 0 else zone.damagePerSecond) := by
  unfold safeZoneDamageForTick
  rw [beq_eq_false_iff_ne.mpr hrate, h]
  show (if _ then _ else _) = _
  split <;> rfl

end Outcome

section Exact

variable {K : Type} [Field K] [LinearOrder K] [FloorRing K] [SquareRoot K]

/-- A tick of the zone succeeds, hurts the actors one by one and leaves a contender alive, at the
cost of a protected one only where it would kill all of them. -/
def ZoneTick (actors : List (CombatActor (Extended K))) (tick tickRate : UInt32) : Prop :=
  ∃ zone protectedActor actors' events, evaluateSafeZone tick tickRate = .ok zone ∧
    applySafeZoneDamage actors tick tickRate = (actors', .ok events) ∧
    List.Forall₂ (ZoneOutcome zone tick tickRate protectedActor events) actors actors' ∧
    (∀ event ∈ events, event.actor ∈ actors.map CombatActor.id) ∧
    (∀ id, protectedActor = some id →
      (∃ actor ∈ actors, actor.contends = true ∧ actor.id = id) ∧
      ∀ actor ∈ actors, actor.contends = true →
        isOutsideSafeZone actor.position zone = .ok true ∧
          actor.health ≤ zone.damagePerSecond) ∧
    ∃ actor ∈ actors', actor.contends = true

/-- An actor is as it was, or exposed on a whole second and of another health. -/
def ZoneChange (zone : SafeZoneState (Extended K)) (tick tickRate : UInt32)
    (before after : CombatActor (Extended K)) : Prop :=
  after = before ∨ tick ≠ 0 ∧ tick % tickRate = 0 ∧ before.alive = true ∧
    isOutsideSafeZone before.position zone = .ok true ∧
    ∃ health, after = hurtByZone health before

/-- Whatever actors there are, the zone changes the health of exposed ones only, on whole seconds
only, and leaves a contender alive. -/
def ZoneSpares (actors : List (CombatActor (Extended K))) (tick tickRate : UInt32) : Prop :=
  ∃ zone, evaluateSafeZone tick tickRate = .ok zone ∧
    List.Forall₂ (ZoneChange zone tick tickRate) actors
      (applySafeZoneDamage actors tick tickRate).1 ∧
    ∃ actor ∈ (applySafeZoneDamage actors tick tickRate).1, actor.contends = true

/-- The contender to protect, if any. -/
def protection (zone : SafeZoneState (Extended K)) (actors : List (CombatActor (Extended K))) :
    Except Exception (Option ActorId) :=
  if actors.countP (outlasts zone zone.damagePerSecond) = 0 then
    some <$> selectSurvivalWinner (rankInputs actors)
  else .ok none

theorem protection_some {zone : SafeZoneState (Extended K)}
    {actors : List (CombatActor (Extended K))}
    (hcontends : ∃ actor ∈ actors, actor.contends = true) {id : ActorId}
    (h : protection zone actors = .ok (some id)) :
    (∃ actor ∈ actors, actor.contends = true ∧ actor.id = id) ∧
      ∀ actor ∈ actors, ¬outlasts zone zone.damagePerSecond actor = true := by
  unfold protection at h
  split at h
  · rename_i hwiped
    refine ⟨?_, List.countP_eq_zero.mp hwiped⟩
    cases hwinner : selectSurvivalWinner (rankInputs actors) with
    | error e =>
      rw [hwinner] at h
      cases h
    | ok winner =>
      rw [hwinner] at h
      obtain rfl := Option.some.inj (Except.ok.inj h)
      exact selectSurvivalWinner_contends hcontends hwinner
  · cases h

/-- The protected contender, or one that the damage leaves alive, stays in the fight. -/
theorem protection_contends {zone : SafeZoneState (Extended K)}
    {actors : List (CombatActor (Extended K))}
    (hcontends : ∃ actor ∈ actors, actor.contends = true) {protectedActor : Option ActorId}
    (h : protection zone actors = .ok protectedActor) :
    ∃ actor ∈ actors.map (harm zone zone.damagePerSecond protectedActor),
      actor.contends = true := by
  cases protectedActor with
  | none =>
    have hlasting : actors.countP (outlasts zone zone.damagePerSecond) ≠ 0 := by
      intro hwiped
      rw [protection, if_pos hwiped] at h
      cases hwinner : selectSurvivalWinner (rankInputs actors) <;> rw [hwinner] at h <;> cases h
    obtain ⟨actor, hactor, houtlasts⟩ := List.countP_pos_iff.mp (Nat.pos_of_ne_zero hlasting)
    have hactorContends := (Bool.and_eq_true_iff.mp houtlasts).1
    exact ⟨_, List.mem_map_of_mem hactor, harm_contends hactorContends (.inl houtlasts)⟩
  | some id =>
    obtain ⟨⟨actor, hactor, hactorContends, hid⟩, -⟩ := protection_some hcontends h
    exact ⟨_, List.mem_map_of_mem hactor, harm_contends hactorContends (.inr (hid ▸ rfl))⟩

variable [IsStrictOrderedRing K]

theorem isOutsideSafeZone_read {tick tickRate : UInt32} {zone : SafeZoneState (Extended K)}
    (hzone : evaluateSafeZone tick tickRate = .ok zone)
    {actors : List (CombatActor (Extended K))}
    (hfinite : ∀ actor ∈ actors, actor.position.isFinite = true) :
    ∀ actor ∈ actors, ∃ outside, isOutsideSafeZone actor.position zone = .ok outside := by
  obtain ⟨zone', hzone', hvalid⟩ :=
    evaluateSafeZone_valid (K := K) tick (evaluateSafeZone_eq_ok.mp hzone).1
  obtain rfl := Except.ok.inj (hzone'.symm.trans hzone)
  exact fun actor hactor => isOutsideSafeZone_exists (hfinite actor hactor) hvalid

/-- Between whole seconds nothing happens. -/
theorem applySafeZoneDamage_idle (actors : List (CombatActor (Extended K)))
    {tick tickRate : UInt32} (hidle : ¬(tick ≠ 0 ∧ tick % tickRate = 0)) (hrate : tickRate ≠ 0) :
    applySafeZoneDamage actors tick tickRate = (actors, .ok []) := by
  obtain ⟨zone, hzone, -⟩ := evaluateSafeZone_valid (K := K) tick hrate
  have hdamage := safeZoneDamageForTick_eq hrate hzone
  rw [if_pos (by rwa [not_and_or, not_not] at hidle)] at hdamage
  rw [applySafeZoneDamage, hdamage]
  rfl

/-- On whole seconds the actors are hurt one by one, once it is known whom to protect. -/
theorem applySafeZoneDamage_second {tick tickRate : UInt32} {zone : SafeZoneState (Extended K)}
    (hzone : evaluateSafeZone tick tickRate = .ok zone)
    (hsecond : tick ≠ 0 ∧ tick % tickRate = 0) {actors : List (CombatActor (Extended K))}
    (hfinite : ∀ actor ∈ actors, actor.position.isFinite = true)
    (hcontends : ∃ actor ∈ actors, actor.contends = true) :
    applySafeZoneDamage actors tick tickRate =
      attempt actors (protection zone actors) fun protectedActor =>
        (actors.map (harm zone zone.damagePerSecond protectedActor),
          .ok (actors.flatMap (harmEvents zone tick zone.damagePerSecond protectedActor))) := by
  have hread := isOutsideSafeZone_read hzone hfinite
  have hdamage := safeZoneDamageForTick_eq (evaluateSafeZone_eq_ok.mp hzone).1 hzone
  rw [if_neg (by rw [not_or, not_not]; exact hsecond)] at hdamage
  rw [applySafeZoneDamage, hdamage, attempt_ok, if_neg (evaluateSafeZone_damage_pos hzone).ne',
    hzone, attempt_ok, buildContenderRanks_eq hcontends, attempt_ok, countZoneSurvivors_eq hread,
    attempt_ok]
  exact congrArg (attempt actors (protection zone actors)) (funext fun protectedActor =>
    hurtOutside_eq hread tick zone.damagePerSecond protectedActor)

theorem zoneSpares_of_finite {actors : List (CombatActor (Extended K))}
    (hfinite : ∀ actor ∈ actors, actor.position.isFinite = true)
    (hcontends : ∃ actor ∈ actors, actor.contends = true) (tick : UInt32) {tickRate : UInt32}
    (hrate : tickRate ≠ 0) : ZoneSpares actors tick tickRate := by
  obtain ⟨zone, hzone, -⟩ := evaluateSafeZone_valid (K := K) tick hrate
  refine ⟨zone, hzone, ?_⟩
  have hunchanged : List.Forall₂ (ZoneChange zone tick tickRate) actors actors :=
    List.forall₂_same.mpr fun _ _ => .inl rfl
  by_cases hsecond : tick ≠ 0 ∧ tick % tickRate = 0
  · rw [applySafeZoneDamage_second hzone hsecond hfinite hcontends]
    cases hprotection : protection zone actors with
    | error e => exact ⟨hunchanged, hcontends⟩
    | ok protectedActor =>
      refine ⟨Aligned.map fun actor hactor => ?_, protection_contends hcontends hprotection⟩
      unfold harm
      by_cases hexposed : exposed zone actor = true
      · obtain ⟨halive, houtside⟩ :=
          (exposed_iff (isOutsideSafeZone_read hzone hfinite actor hactor)).mp hexposed
        rw [if_pos hexposed]
        exact .inr ⟨hsecond.1, hsecond.2, halive, houtside, _, rfl⟩
      · exact .inl (if_neg hexposed)
  · rw [applySafeZoneDamage_idle actors hsecond hrate]
    exact ⟨hunchanged, hcontends⟩

theorem zoneTick_of_valid {actors : List (CombatActor (Extended K))}
    (hvalid : validateActors [] actors = .ok ())
    (hcontends : ∃ actor ∈ actors, actor.contends = true) (tick : UInt32) {tickRate : UInt32}
    (hrate : tickRate ≠ 0) : ZoneTick actors tick tickRate := by
  obtain ⟨zone, hzone, -⟩ := evaluateSafeZone_valid (K := K) tick hrate
  obtain ⟨hall, -, hdistinct⟩ := validateActors_eq_ok.mp hvalid
  have hfinite : ∀ actor ∈ actors, actor.position.isFinite = true := by
    intro actor hactor
    have hactor := hall actor hactor
    simp only [CombatActor.isValid, Bool.and_eq_true] at hactor
    exact hactor.1.1.1
  have hread := isOutsideSafeZone_read hzone hfinite
  by_cases hsecond : tick ≠ 0 ∧ tick % tickRate = 0
  · obtain ⟨protectedActor, hprotection⟩ : ∃ protectedActor,
        protection zone actors = .ok protectedActor := by
      obtain ⟨winner, hwinner⟩ := selectSurvivalWinner_exists hvalid hcontends
      unfold protection
      rw [hwinner]
      split
      · exact ⟨some winner, rfl⟩
      · exact ⟨none, rfl⟩
    refine ⟨zone, protectedActor, _, _, hzone, ?_,
      harm_outcome hsecond protectedActor hdistinct hread, ?_, ?_,
      protection_contends hcontends hprotection⟩
    · rw [applySafeZoneDamage_second hzone hsecond hfinite hcontends, hprotection, attempt_ok]
    · intro event hevent
      obtain ⟨actor, hactor, hevent⟩ := List.mem_flatMap.mp hevent
      exact harmEvents_actor actor event hevent ▸ List.mem_map_of_mem hactor
    · rintro id rfl
      obtain ⟨hlives, hdoomed⟩ := protection_some hcontends hprotection
      exact ⟨hlives, fun actor hactor hactorContends =>
        outlasts_eq_false (hread actor hactor) hactorContends (hdoomed actor hactor)⟩
  · refine ⟨zone, none, actors, [], hzone, applySafeZoneDamage_idle actors hsecond hrate, ?_,
      fun event hevent => absurd hevent List.not_mem_nil, fun id hid => ?_, hcontends⟩
    · refine List.forall₂_same.mpr fun actor _ => ⟨fun _ => ⟨rfl, rfl⟩, ?_⟩
      exact fun _ _ hfirst hwhole => absurd ⟨hfirst, hwhole⟩ hsecond
    · cases hid

/-- The zone only shrinks, without a jump, and never kills the last contender. -/
theorem safeZone_shrinks_spares {tickRate : UInt32} (hrate : tickRate ≠ 0) :
    (∀ tick, ∃ (zone : SafeZoneState (Extended K)) (radius : K),
      ZoneAt tick tickRate zone radius ∧ 0 ≤ radius) ∧
    (∀ tick later (zone zone' : SafeZoneState (Extended K)) (radius radius' : K),
      ZoneAt tick tickRate zone radius → ZoneAt later tickRate zone' radius' →
      (tick ≤ later → radius' ≤ radius ∧ zone.damagePerSecond ≤ zone'.damagePerSecond) ∧
      (later.toNat = tick.toNat + 1 → ∃ definition ∈ safeZoneStages (R := Extended K),
        definition.stage = zone.stage ∧
          radius - radius' ≤ (definition.stretch tickRate).slope)) ∧
    ∀ tick (actors : List (CombatActor (Extended K))),
      (∃ actor ∈ actors, actor.contends = true) →
      ((∀ actor ∈ actors, actor.position.isFinite = true) → ZoneSpares actors tick tickRate) ∧
      (validateActors [] actors = .ok () → ZoneTick actors tick tickRate) :=
  ⟨fun tick => zoneAt_exists tick hrate,
    fun _ _ _ _ _ _ h h' => ⟨h.later h', h.next h'⟩,
    fun tick _ hcontends => ⟨fun hfinite => zoneSpares_of_finite hfinite hcontends tick hrate,
      fun hvalid => zoneTick_of_valid hvalid hcontends tick hrate⟩⟩

/-- Two contenders that the first second of the zone would kill. -/
def lastTwo : List (CombatActor (Extended ℚ)) :=
  [{ id := 1, role := .contender, position := ⟨.finite 200, .finite 0⟩, health := 1,
     alive := true },
   { id := 2, role := .contender, position := ⟨.finite 0, .finite 300⟩, health := 2,
     alive := true }]

/-- The end of the first stage, and the two contenders in the first second. -/
theorem safeZone_shrinks_spares_lastTwo :
    (∃ (zone zone' : SafeZoneState (Extended ℚ)) (radius radius' : ℚ),
      ZoneAt 3599 30 zone radius ∧ ZoneAt 3600 30 zone' radius' ∧ radius' ≤ radius ∧
      zone.damagePerSecond ≤ zone'.damagePerSecond ∧
      ∃ definition ∈ safeZoneStages (R := Extended ℚ), definition.stage = zone.stage ∧
        radius - radius' ≤ (definition.stretch 30).slope) ∧
    ZoneSpares lastTwo 30 30 ∧ ZoneTick lastTwo 30 30 := by
  obtain ⟨hexists, hshrinks, hspares⟩ :=
    safeZone_shrinks_spares (K := ℚ) (by decide : (30 : UInt32) ≠ 0)
  obtain ⟨zone, radius, hzone, -⟩ := hexists 3599
  obtain ⟨zone', radius', hzone', -⟩ := hexists 3600
  obtain ⟨hlater, hnext⟩ := hshrinks _ _ _ _ _ _ hzone hzone'
  obtain ⟨hnarrower, hdamage⟩ := hlater (by decide)
  refine ⟨⟨zone, zone', radius, radius', hzone, hzone', hnarrower, hdamage, hnext (by decide)⟩, ?_⟩
  obtain ⟨hspared, htick⟩ := hspares 30 lastTwo ⟨_, List.mem_cons_self, rfl⟩
  exact ⟨hspared (by decide +kernel), htick (by decide +kernel)⟩

end Exact

end SurvivalArena
