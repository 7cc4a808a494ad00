import SurvivalArena.Framework.Extended
import SurvivalArena.Framework.StagedDescent
import SurvivalArena.Simulation.MatchTypes

/-!
# Safe zone

The circle that shrinks in stages and the damage outside of it, once a second.
-/

namespace SurvivalArena

variable {R : Type} [Precision R]

structure SafeZoneStageDefinition (R : Type) where
  stage : SafeZoneStage
  startSecond : Nat
  endSecond : Nat
  startRadius : R
  endRadius : R
  damagePerSecond : Int

def safeZoneStages : List (SafeZoneStageDefinition R) :=
  [⟨.stage1, 0, 120, 128.0, 112.0, 2⟩,
    ⟨.stage2, 120, 240, 112.0, 96.0, 4⟩,
    ⟨.stage3, 240, 360, 96.0, 80.0, 8⟩,
    ⟨.stage4, 360, 480, 80.0, 64.0, 16⟩,
    ⟨.suddenDeath, 480, 600, 64.0, 0.0, 32⟩]

structure SafeZoneState (R : Type) where
  stage : SafeZoneStage
  center : Vec2 R
  radius : R
  damagePerSecond : Int
deriving DecidableEq

def wideOfNat (value : Nat) : Precision.Wide R :=
  Precision.wideOfUInt64 (UInt64.ofNat value)

/-- The zone within a stage, the radius shrinking with the ticks. -/
def SafeZoneStageDefinition.zoneAt (definition : SafeZoneStageDefinition R)
    (currentTick tickRate : Nat) : SafeZoneState R :=
  let startTick := definition.startSecond * tickRate
  let endTick := definition.endSecond * tickRate
  let fraction : Precision.Wide R :=
    wideOfNat (currentTick - startTick) / wideOfNat (endTick - startTick)
  let radius : Precision.Wide R := Precision.widen definition.startRadius +
    (Precision.widen definition.endRadius - Precision.widen definition.startRadius) *
      fraction
  ⟨definition.stage, ⟨0, 0⟩, Precision.narrow radius, definition.damagePerSecond⟩

def evaluateSafeZone (tick tickRate : UInt32) : Except Exception (SafeZoneState R) := do
  throwIf (tickRate == 0)
    (.invalidArgument "safe-zone tick rate must be positive")
  let running := safeZoneStages.find? fun definition : SafeZoneStageDefinition R =>
    tick.toNat < definition.endSecond * tickRate.toNat
  pure (running.elim ⟨.suddenDeath, ⟨0, 0⟩, 0.0, 32⟩ fun definition =>
    definition.zoneAt tick.toNat tickRate.toNat)

def isOutsideSafeZone (position : Vec2 R) (state : SafeZoneState R) :
    Except Exception Bool := do
  throwIf (!position.isFinite)
    (.invalidArgument "safe-zone query position must be finite")
  throwIf (!state.center.isFinite || !Scalar.isFinite state.radius ||
      decide (state.radius < 0) || decide (state.damagePerSecond < 0))
    (.invalidArgument "safe-zone state is invalid")
  let deltaX : Precision.Wide R :=
    Precision.widen position.x - Precision.widen state.center.x
  let deltaZ : Precision.Wide R :=
    Precision.widen position.z - Precision.widen state.center.z
  let radius : Precision.Wide R := Precision.widen state.radius
  pure (decide (radius * radius < deltaX * deltaX + deltaZ * deltaZ))

def safeZoneDamageForTick (R : Type) [Precision R] (tick tickRate : UInt32) :
    Except Exception Int := do
  throwIf (tickRate == 0)
    (.invalidArgument "safe-zone tick rate must be positive")
  if tick = 0 ∨ tick % tickRate ≠ 0 then pure 0
  else do
    let zone : SafeZoneState R ← evaluateSafeZone tick tickRate
    pure zone.damagePerSecond

example : (evaluateSafeZone 1800 30 : Except Exception (SafeZoneState Float32)) =
    .ok ⟨.stage1, ⟨0, 0⟩, 120.0, 2⟩ := by
  decide +kernel

/-! ## The radius of the zone

Over exact numbers the zone shrinks stage after stage, by the slope of its stage with every tick
and without a jump between stages, down to nothing.
-/

variable {K : Type} [Field K] [LinearOrder K] [FloorRing K] [SquareRoot K]

structure SafeZoneState.IsValid (zone : SafeZoneState (Extended K)) : Prop where
  center : zone.center.isFinite = true
  radius : ∃ radius, zone.radius = .finite radius ∧ 0 ≤ radius
  damage : 0 ≤ zone.damagePerSecond

theorem isOutsideSafeZone_exists {position : Vec2 (Extended K)} {zone : SafeZoneState (Extended K)}
    (hposition : position.isFinite = true) (hzone : zone.IsValid) :
    ∃ outside, isOutsideSafeZone position zone = .ok outside := by
  obtain ⟨radius, hradius, hnonneg⟩ := hzone.radius
  have haccepted : (!zone.center.isFinite || !Scalar.isFinite zone.radius ||
      decide (zone.radius < 0) || decide (zone.damagePerSecond < 0)) = false := by
    rw [hzone.center, hradius]
    simp [hnonneg, hzone.damage]
  unfold isOutsideSafeZone
  rw [hposition, haccepted]
  exact ⟨_, rfl⟩

section Ordered

variable [IsStrictOrderedRing K]

/-- The stages follow each other and shrink. -/
structure StageShrinks (definition : SafeZoneStageDefinition (Extended K)) : Prop where
  seconds : definition.startSecond < definition.endSecond ∧ definition.endSecond ≤ 600
  radii : ∃ first last : K, definition.startRadius = .finite first ∧
    definition.endRadius = .finite last ∧ 0 ≤ last ∧ last ≤ first
  damage : 0 ≤ definition.damagePerSecond

theorem safeZoneStages_shrink : ∀ definition ∈ safeZoneStages (R := Extended K),
    StageShrinks definition := by
  have hstage {stage : SafeZoneStage} {startSecond endSecond : Nat} {first last : K}
      {damage : Int} (hseconds : startSecond < endSecond ∧ endSecond ≤ 600)
      (hradii : 0 ≤ last ∧ last ≤ first) (hdamage : 0 ≤ damage) :
      StageShrinks ⟨stage, startSecond, endSecond, .finite first, .finite last, damage⟩ :=
    ⟨hseconds, ⟨first, last, rfl, rfl, hradii.1, hradii.2⟩, hdamage⟩
  simp only [safeZoneStages, List.forall_mem_cons]
  exact ⟨hstage (by decide) (by norm_num) (by decide),
    hstage (by decide) (by norm_num) (by decide), hstage (by decide) (by norm_num) (by decide),
    hstage (by decide) (by norm_num) (by decide), hstage (by decide) (by norm_num) (by decide),
    nofun⟩

omit [IsStrictOrderedRing K] in
theorem wideOfNat_finite {value : Nat} (h : value < 2 ^ 64) :
    (wideOfNat value : Precision.Wide (Extended K)) = Extended.finite (value : K) := by
  show Extended.finite (((UInt64.ofNat value).toNat : ℕ) : K) = _
  rw [UInt64.toNat_ofNat_of_lt' h]

/-- The number that a finite value has. -/
def finiteValue : Extended K → K
  | .finite value => value
  | _ => 0

/-- The ticks of a stage and the radii at its ends. -/
def SafeZoneStageDefinition.stretch (definition : SafeZoneStageDefinition (Extended K))
    (tickRate : UInt32) : Stretch K where
  start := definition.startSecond * tickRate.toNat
  finish := definition.endSecond * tickRate.toNat
  first := finiteValue definition.startRadius
  last := finiteValue definition.endRadius

omit [FloorRing K] [SquareRoot K] [IsStrictOrderedRing K] in
theorem StageShrinks.descends {definition : SafeZoneStageDefinition (Extended K)}
    (h : StageShrinks definition) {tickRate : UInt32} (hrate : tickRate ≠ 0) :
    (definition.stretch tickRate).Descends := by
  have hpositive : 0 < tickRate.toNat := Nat.pos_of_ne_zero fun hzero =>
    hrate (UInt32.toNat_inj.mp hzero)
  obtain ⟨first, last, hfirst, hlast, -, hshrinks⟩ := h.radii
  refine ⟨Nat.mul_lt_mul_of_pos_right h.seconds.1 hpositive, ?_⟩
  rw [SafeZoneStageDefinition.stretch, hfirst, hlast]
  exact hshrinks

theorem zoneAt_radius {definition : SafeZoneStageDefinition (Extended K)}
    (h : StageShrinks definition) {tick tickRate : UInt32} (hrate : tickRate ≠ 0) :
    (definition.zoneAt tick.toNat tickRate.toNat).radius =
      .finite ((definition.stretch tickRate).valueAt tick.toNat) := by
  obtain ⟨first, last, hfirst, hlast, -, -⟩ := h.radii
  have hticks := tick.toNat_lt
  have hend : definition.endSecond * tickRate.toNat < 2 ^ 64 := by
    have hrate64 := tickRate.toNat_lt
    calc definition.endSecond * tickRate.toNat ≤ 600 * tickRate.toNat :=
          Nat.mul_le_mul_right _ h.seconds.2
      _ < 2 ^ 64 := by omega
  have hwidth : ((definition.endSecond * tickRate.toNat -
      definition.startSecond * tickRate.toNat : ℕ) : K) ≠ 0 := (h.descends hrate).width_pos.ne'
  unfold SafeZoneStageDefinition.zoneAt
  dsimp only
  rw [wideOfNat_finite (by omega), wideOfNat_finite (by omega), SafeZoneStageDefinition.stretch,
    Stretch.valueAt, hfirst, hlast]
  show Extended.finite first + (Extended.finite last - Extended.finite first) *
    (Extended.finite _ / Extended.finite _) = _
  rw [Extended.finite_div hwidth]
  rfl

/-- Between the radii at its two ends a zone's radius is not negative. -/
theorem zoneAt_valid {definition : SafeZoneStageDefinition (Extended K)}
    (h : StageShrinks definition) {tick tickRate : UInt32} (hrate : tickRate ≠ 0)
    (hrunning : tick.toNat < definition.endSecond * tickRate.toNat) :
    (definition.zoneAt tick.toNat tickRate.toNat).IsValid := by
  refine ⟨rfl, ⟨_, zoneAt_radius h hrate, ?_⟩, h.damage⟩
  obtain ⟨-, last, -, hlast, hnonneg, -⟩ := h.radii
  have hlow : finiteValue definition.endRadius ≤ _ :=
    (h.descends hrate).last_le_valueAt hrunning.le
  rw [hlast] at hlow
  exact hnonneg.trans hlow

theorem evaluateSafeZone_valid (tick : UInt32) {tickRate : UInt32} (hrate : tickRate ≠ 0) :
    ∃ zone : SafeZoneState (Extended K), evaluateSafeZone tick tickRate = .ok zone ∧
      zone.IsValid := by
  have haccepted : (tickRate == 0) = false := beq_eq_false_iff_ne.mpr hrate
  unfold evaluateSafeZone
  rw [haccepted]
  refine ⟨_, rfl, ?_⟩
  cases hfound : safeZoneStages.find? fun definition : SafeZoneStageDefinition (Extended K) =>
      tick.toNat < definition.endSecond * tickRate.toNat with
  | none => exact ⟨rfl, ⟨0.0, rfl, by norm_num⟩, by simp⟩
  | some definition =>
    have hrunning := List.find?_some hfound
    exact zoneAt_valid (safeZoneStages_shrink definition (List.mem_of_find?_eq_some hfound))
      hrate (by simpa using hrunning)

/-! ## From tick to tick -/

variable (K) in
def zoneStretches (tickRate : UInt32) : List (Stretch K) :=
  safeZoneStages.map fun definition => definition.stretch tickRate

/-- Each stage begins when and where the one before ends. -/
theorem zoneStretches_joined {tickRate : UInt32} (hrate : tickRate ≠ 0) :
    Stretch.Joined 0 0 128 (zoneStretches K tickRate) := by
  have hdescends : ∀ definition ∈ safeZoneStages (R := Extended K),
      (definition.stretch tickRate).Descends := fun definition hdefinition =>
    (safeZoneStages_shrink definition hdefinition).descends hrate
  simp only [safeZoneStages, List.forall_mem_cons] at hdescends
  obtain ⟨h1, h2, h3, h4, h5, -⟩ := hdescends
  refine ⟨Nat.zero_mul _, ?_, h1, rfl, rfl, h2, rfl, rfl, h3, rfl, rfl, h4, rfl, rfl, h5, ?_⟩
  · show (128.0 : K) = 128
    norm_num
  · show (0.0 : K) = 0
    norm_num

/-- The stage that runs in a tick. -/
def runningStage (tick tickRate : UInt32) : Option (SafeZoneStageDefinition (Extended K)) :=
  safeZoneStages.find? fun definition =>
    decide (tick.toNat < definition.endSecond * tickRate.toNat)

omit [IsStrictOrderedRing K] in
theorem evaluateSafeZone_eq_ok {tick tickRate : UInt32} {zone : SafeZoneState (Extended K)} :
    evaluateSafeZone tick tickRate = .ok zone ↔ tickRate ≠ 0 ∧
      zone = (runningStage tick tickRate).elim ⟨.suddenDeath, ⟨0, 0⟩, 0.0, 32⟩
        fun definition => definition.zoneAt tick.toNat tickRate.toNat := by
  unfold evaluateSafeZone
  rw [throwIf_bind_eq_ok, beq_eq_false_iff_ne]
  exact and_congr_right fun _ => ⟨fun h => (Except.ok.inj h).symm, fun h => h ▸ rfl⟩

omit [IsStrictOrderedRing K] in
theorem running_zoneStretches (tick tickRate : UInt32) :
    Stretch.running (zoneStretches K tickRate) tick.toNat =
      (runningStage tick tickRate).map fun definition => definition.stretch tickRate :=
  List.find?_map

theorem evaluateSafeZone_radius {tick tickRate : UInt32} {zone : SafeZoneState (Extended K)}
    (h : evaluateSafeZone tick tickRate = .ok zone) :
    zone.radius =
      .finite (Stretch.valueAlong 0 (zoneStretches K tickRate) tick.toNat) := by
  obtain ⟨hrate, rfl⟩ := evaluateSafeZone_eq_ok.mp h
  rw [Stretch.valueAlong, running_zoneStretches]
  cases hrunning : runningStage (K := K) tick tickRate with
  | none =>
    show Extended.finite (0.0 : K) = Extended.finite 0
    norm_num
  | some definition =>
    exact zoneAt_radius (safeZoneStages_shrink definition (List.mem_of_find?_eq_some hrunning))
      hrate

/-- The stage that a zone names bounds the slope, also after its end. -/
theorem evaluateSafeZone_slope {tick tickRate : UInt32} {zone : SafeZoneState (Extended K)}
    (h : evaluateSafeZone tick tickRate = .ok zone) :
    ∃ definition ∈ safeZoneStages (R := Extended K), definition.stage = zone.stage ∧
      Stretch.slopeAlong (zoneStretches K tickRate) tick.toNat ≤
        (definition.stretch tickRate).slope := by
  obtain ⟨hrate, rfl⟩ := evaluateSafeZone_eq_ok.mp h
  rw [Stretch.slopeAlong, running_zoneStretches]
  cases hrunning : runningStage (K := K) tick tickRate with
  | none =>
    have hlast : (⟨.suddenDeath, 480, 600, 64.0, 0.0, 32⟩ :
        SafeZoneStageDefinition (Extended K)) ∈ safeZoneStages := by
      simp [safeZoneStages]
    exact ⟨_, hlast, rfl, ((safeZoneStages_shrink _ hlast).descends hrate).slope_nonneg⟩
  | some definition =>
    exact ⟨definition, List.mem_of_find?_eq_some hrunning, rfl, le_rfl⟩

omit [IsStrictOrderedRing K] in
theorem evaluateSafeZone_damage_pos {tick tickRate : UInt32} {zone : SafeZoneState (Extended K)}
    (h : evaluateSafeZone tick tickRate = .ok zone) : 0 < zone.damagePerSecond := by
  obtain ⟨-, rfl⟩ := evaluateSafeZone_eq_ok.mp h
  cases hrunning : runningStage (K := K) tick tickRate with
  | none => exact (by decide : (0 : Int) < 32)
  | some definition =>
    have hdamages : ∀ definition ∈ safeZoneStages (R := Extended K),
        0 < definition.damagePerSecond := by
      simp [safeZoneStages]
    exact hdamages definition (List.mem_of_find?_eq_some hrunning)

omit [IsStrictOrderedRing K] in
theorem evaluateSafeZone_damage_le {tick later tickRate : UInt32}
    {zone zone' : SafeZoneState (Extended K)} (hlater : tick ≤ later)
    (h : evaluateSafeZone tick tickRate = .ok zone)
    (h' : evaluateSafeZone later tickRate = .ok zone') :
    zone.damagePerSecond ≤ zone'.damagePerSecond := by
  obtain ⟨-, rfl⟩ := evaluateSafeZone_eq_ok.mp h
  obtain ⟨-, rfl⟩ := evaluateSafeZone_eq_ok.mp h'
  have hends : ∀ definition : SafeZoneStageDefinition (Extended K),
      decide (later.toNat < definition.endSecond * tickRate.toNat) = true →
        decide (tick.toNat < definition.endSecond * tickRate.toNat) = true := by
    intro definition hrunning
    have hticks := UInt32.le_iff_toNat_le.mp hlater
    rw [decide_eq_true_eq] at hrunning ⊢
    omega
  cases hlate : runningStage (K := K) later tickRate with
  | none =>
    have hlast : ∀ definition ∈ safeZoneStages (R := Extended K),
        definition.damagePerSecond ≤ 32 := by
      simp [safeZoneStages]
    cases hrunning : runningStage (K := K) tick tickRate with
    | none => exact le_refl (32 : Int)
    | some definition => exact hlast definition (List.mem_of_find?_eq_some hrunning)
  | some definition' =>
    obtain ⟨definition, hrunning⟩ : ∃ definition, runningStage (K := K) tick tickRate =
        some definition := by
      have hruns := List.find?_some hlate
      exact Option.isSome_iff_exists.mp (List.find?_isSome.mpr
        ⟨definition', List.mem_of_find?_eq_some hlate, hends definition' hruns⟩)
    rw [hrunning]
    have hsorted : (safeZoneStages (R := Extended K)).Pairwise fun a b =>
        a.damagePerSecond ≤ b.damagePerSecond := by
      simp [safeZoneStages]
    exact find?_later hends (fun definition => le_refl definition.damagePerSecond) hsorted hrunning
      hlate

/-- In a tick the zone has the radius, as a number. -/
def ZoneAt (tick tickRate : UInt32) (zone : SafeZoneState (Extended K)) (radius : K) : Prop :=
  evaluateSafeZone tick tickRate = .ok zone ∧ zone.radius = .finite radius

theorem ZoneAt.radius_eq {tick tickRate : UInt32} {zone : SafeZoneState (Extended K)} {radius : K}
    (h : ZoneAt tick tickRate zone radius) :
    radius = Stretch.valueAlong 0 (zoneStretches K tickRate) tick.toNat :=
  Extended.finite.inj (h.2.symm.trans (evaluateSafeZone_radius h.1))

theorem zoneAt_exists (tick : UInt32) {tickRate : UInt32} (hrate : tickRate ≠ 0) :
    ∃ (zone : SafeZoneState (Extended K)) (radius : K), ZoneAt tick tickRate zone radius ∧
      0 ≤ radius := by
  obtain ⟨zone, hzone, hvalid⟩ := evaluateSafeZone_valid (K := K) tick hrate
  obtain ⟨radius, hradius, hnonneg⟩ := hvalid.radius
  exact ⟨zone, radius, ⟨hzone, hradius⟩, hnonneg⟩

/-- In a later tick the zone is no wider and does no less damage. -/
theorem ZoneAt.later {tick later tickRate : UInt32} {zone zone' : SafeZoneState (Extended K)}
    {radius radius' : K} (h : ZoneAt tick tickRate zone radius)
    (h' : ZoneAt later tickRate zone' radius') (hlater : tick ≤ later) :
    radius' ≤ radius ∧ zone.damagePerSecond ≤ zone'.damagePerSecond := by
  have hrate := (evaluateSafeZone_eq_ok.mp h.1).1
  refine ⟨?_, evaluateSafeZone_damage_le hlater h.1 h'.1⟩
  rw [h.radius_eq, h'.radius_eq]
  exact (zoneStretches_joined hrate).antitone (UInt32.le_iff_toNat_le.mp hlater)

/-- In the next tick the zone is narrower by no more than the slope of its stage. -/
theorem ZoneAt.next {tick later tickRate : UInt32} {zone zone' : SafeZoneState (Extended K)}
    {radius radius' : K} (h : ZoneAt tick tickRate zone radius)
    (h' : ZoneAt later tickRate zone' radius') (hnext : later.toNat = tick.toNat + 1) :
    ∃ definition ∈ safeZoneStages (R := Extended K), definition.stage = zone.stage ∧
      radius - radius' ≤ (definition.stretch tickRate).slope := by
  have hrate := (evaluateSafeZone_eq_ok.mp h.1).1
  obtain ⟨definition, hdefinition, hstage, hslope⟩ := evaluateSafeZone_slope h.1
  refine ⟨definition, hdefinition, hstage, ?_⟩
  rw [h.radius_eq, h'.radius_eq, hnext,
    (zoneStretches_joined hrate).valueAlong_succ (Nat.zero_le _), sub_sub_cancel]
  exact hslope

end Ordered

end SurvivalArena
