import SurvivalArena.Exception
import SurvivalArena.Framework.KeyedList
import SurvivalArena.Protocol.ByteCodec

/-!
# Game snapshot codec

The full-precision encoding of a world.  Encoder and decoder share
`canonicalize`, which sorts the entities and rejects an inconsistent world.
The validity predicates and the actor and loot records are the ones the
replication codec repeats.
-/

namespace SurvivalArena

open Wire KeyedList

def NetworkVec2.isFinite (value : NetworkVec2) : Bool :=
  value.x.isFinite && value.z.isFinite

def isValidRole (role : NetworkActorRole) : Bool :=
  role == .contender || role == .neutral

def isValidArchetype (archetype : NetworkNeutralArchetype) : Bool :=
  archetype == .none || archetype == .melee || archetype == .ranged

def isValidWeapon (weapon : NetworkWeaponType) : Bool :=
  weapon == .blade || weapon == .rifle || weapon == .arcPulse

def isValidLootType (type : NetworkLootType) : Bool :=
  type == .rifle || type == .arcPulse || type == .medKit

def isValidPhase (phase : NetworkMatchPhase) : Bool :=
  phase == .waiting || phase == .running || phase == .suddenDeath ||
    phase == .finished

def isValidSafeZoneStage (stage : NetworkSafeZoneStage) : Bool :=
  stage == .stage1 || stage == .stage2 || stage == .stage3 ||
    stage == .stage4 || stage == .suddenDeath

def isValidEndReason (reason : NetworkMatchEndReason) : Bool :=
  reason == .lastSurvivor || reason == .timeLimit

/-- A contender has no archetype and a neutral has one. -/
def isValidActorIdentity (role : NetworkActorRole)
    (archetype : NetworkNeutralArchetype) : Bool :=
  isValidRole role && isValidArchetype archetype &&
    if role = .contender then archetype == .none
    else archetype == .melee || archetype == .ranged

def isValidActor (actor : NetworkActorSnapshot) : Bool :=
  isValidActorIdentity actor.role actor.neutralArchetype &&
    isValidWeapon actor.weapon && actor.position.isFinite &&
    decide (0 ≤ actor.health) && decide (actor.health ≤ 100) &&
    actor.alive == decide (0 < actor.health)

def isValidLoot (loot : NetworkLootSnapshot) : Bool :=
  isValidLootType loot.type && loot.position.isFinite

def isLivingContender (actor : NetworkActorSnapshot) : Bool :=
  actor.role == .contender && actor.alive

/-- The winner of a finished match is its one living contender. -/
def hasValidOutcome (snapshot : GameSnapshot) : Bool :=
  snapshot.hasResult == (snapshot.phase == .finished) &&
    (!snapshot.hasResult ||
      isValidEndReason snapshot.result.reason &&
        snapshot.aliveContenders == 1 &&
        match lookup NetworkActorSnapshot.id snapshot.result.winner
          snapshot.actors with
        | some winner => isLivingContender winner
        | none => false)

def sortEntities (snapshot : GameSnapshot) : GameSnapshot :=
  { snapshot with
    actors := sortByKey NetworkActorSnapshot.id snapshot.actors
    loot := sortByKey NetworkLootSnapshot.id snapshot.loot }

/-- The world with its entities in ascending order, unless it is invalid. -/
def canonicalize (snapshot : GameSnapshot) : Option GameSnapshot :=
  if !(isValidPhase snapshot.phase &&
      isValidSafeZoneStage snapshot.safeZoneStage &&
      snapshot.safeZoneCenter.isFinite && snapshot.safeZoneRadius.isFinite &&
      !decide (snapshot.safeZoneRadius < 0) &&
      decide (snapshot.actors.length ≤ maxSnapshotActors) &&
      decide (snapshot.loot.length ≤ maxSnapshotLoot)) then none
  else
    let canonical := sortEntities snapshot
    if hasAdjacentDuplicate NetworkActorSnapshot.id canonical.actors ||
        !canonical.actors.all isValidActor then none
    else if hasAdjacentDuplicate NetworkLootSnapshot.id canonical.loot ||
        !canonical.loot.all isValidLoot then none
    else if canonical.aliveContenders !=
        UInt32.ofNat (canonical.actors.countP isLivingContender) then none
    else if hasValidOutcome canonical then some canonical
    else none

def writeResult (result : NetworkMatchResult) : Bytes :=
  writeU32 result.winner.value ++ writeU8 result.reason.value ++
    writeU32 result.finishedTick

def writeVec2 (value : NetworkVec2) : Bytes :=
  writeF32 value.x ++ writeF32 value.z

def writeActor (actor : NetworkActorSnapshot) : Bytes :=
  writeU32 actor.id.value ++ writeU8 actor.role.value ++
    writeU8 actor.neutralArchetype.value ++ writeVec2 actor.position ++
    writeI32 actor.health ++ writeBool actor.alive ++
    writeU8 actor.weapon.value ++ writeU32 actor.cooldownTicksRemaining ++
    writeU32 actor.eliminations

def writeLoot (loot : NetworkLootSnapshot) : Bytes :=
  writeU32 loot.id ++ writeU8 loot.type.value ++ writeVec2 loot.position ++
    writeBool loot.active

def writeGameSnapshot (snapshot : GameSnapshot) : Bytes :=
  writeU8 snapshot.phase.value ++ writeU8 snapshot.safeZoneStage.value ++
    writeVec2 snapshot.safeZoneCenter ++ writeF32 snapshot.safeZoneRadius ++
    writeU32 snapshot.aliveContenders ++
    writeVector writeActor snapshot.actors ++
    writeVector writeLoot snapshot.loot ++
    writeBool snapshot.hasResult ++
    (if snapshot.hasResult then writeResult snapshot.result else []) ++
    writeU64 snapshot.eventChecksum

/-- The encoded payload, unless it exceeds the payload limit. -/
def limitPayload (what : String) (bytes : Bytes) : Except Exception Bytes :=
  if maxSnapshotPayloadBytes < bytes.length then .error (.lengthError what)
  else .ok bytes

theorem limitPayload_eq_ok {what : String} {bytes limited : Bytes} :
    limitPayload what bytes = .ok limited ↔
      ¬maxSnapshotPayloadBytes < bytes.length ∧ bytes = limited := by
  unfold limitPayload
  split <;> simp_all

def encodeGameSnapshot (snapshot : GameSnapshot) : Except Exception Bytes :=
  (canonicalize snapshot).elim
    (.error (.invalidArgument "game snapshot is invalid"))
    fun canonical =>
      limitPayload "game snapshot exceeds fragment payload limit"
        (writeGameSnapshot canonical)

section Readers

variable {ε : Type} [ReadErrors ε]

def readResult : Reader ε NetworkMatchResult := do
  let winner ← readU32
  let reason ← readU8
  let finishedTick ← readU32
  pure { winner := ⟨winner⟩, reason := ⟨reason⟩, finishedTick }

/-- The result follows its presence flag and keeps its default otherwise. -/
def readOptionalResult (hasResult : Bool) : Reader ε NetworkMatchResult :=
  if hasResult then readResult else pure {}

def readVec2 : Reader ε NetworkVec2 := do
  let x ← readF32
  let z ← readF32
  pure { x, z }

def readActor : Reader ε NetworkActorSnapshot := do
  let id ← readU32
  let role ← readU8
  let archetype ← readU8
  let position ← readVec2
  let health ← readI32
  let alive ← readU8
  let weapon ← readU8
  let cooldown ← readU32
  let eliminations ← readU32
  let alive ← boolOfU8 alive
  pure {
    id := ⟨id⟩, role := ⟨role⟩, neutralArchetype := ⟨archetype⟩, position,
    health, alive, weapon := ⟨weapon⟩, cooldownTicksRemaining := cooldown,
    eliminations }

def readLoot : Reader ε NetworkLootSnapshot := do
  let id ← readU32
  let type ← readU8
  let position ← readVec2
  let active ← readBool
  pure { id, type := ⟨type⟩, position, active }

def readGameSnapshot : Reader ε GameSnapshot := do
  let phase ← readU8
  let stage ← readU8
  let center ← readVec2
  let radius ← readF32
  let aliveContenders ← readU32
  let actors ← readBoundedVector maxSnapshotActors readActor
  let loot ← readBoundedVector maxSnapshotLoot readLoot
  let hasResult ← readBool
  let result ← readOptionalResult hasResult
  let eventChecksum ← readU64
  pure {
    phase := ⟨phase⟩, safeZoneStage := ⟨stage⟩, safeZoneCenter := center,
    safeZoneRadius := radius, aliveContenders, actors, loot, result,
    hasResult, eventChecksum }

end Readers

def decodeGameSnapshot (bytes : Bytes) : Except DecodeError GameSnapshot :=
  if maxSnapshotPayloadBytes < bytes.length then .error .countLimit
  else do
    let (snapshot, rest) ← readGameSnapshot bytes
    (canonicalize snapshot).elim (.error .invalidValue) fun canonical =>
      if rest.isEmpty then pure canonical else .error .trailingBytes

/-! ## Exactness of the readers -/

section Exactness

variable {ε : Type} [ReadErrors ε]

theorem readResult_exact : Exact (readResult (ε := ε)) writeResult := by
  intro result input rest
  simp only [readResult, readU32_exact.bind_eq_ok, readU8_exact.bind_eq_ok,
    pure_eq_ok, writeResult]
  constructor
  · rintro ⟨winner, _, rfl, reason, _, rfl, tick, _, rfl, rfl, rfl⟩
    simp
  · rintro rfl
    exact ⟨_, _, by simp only [List.append_assoc], _, _, rfl, _, _, rfl, rfl, rfl⟩

/-- The result of a world without one is the default. -/
def HasNormalResult (hasResult : Bool) (result : NetworkMatchResult) : Prop :=
  hasResult = false → result = {}

theorem readOptionalResult_exactOn (hasResult : Bool) :
    ExactOn (HasNormalResult hasResult) (readOptionalResult (ε := ε) hasResult)
      (fun result => if hasResult then writeResult result else []) :=
  ((readResult_exact.exactOn fun _ => True).optional hasResult {}).mono
    fun result h => by cases hasResult <;> simp_all [HasNormalResult]

/-- Neither coordinate is a NaN. -/
def NetworkVec2.IsNumber (value : NetworkVec2) : Prop :=
  value.x.isNaN = false ∧ value.z.isNaN = false

theorem NetworkVec2.isNumber_of_isFinite {value : NetworkVec2}
    (h : value.isFinite = true) : value.IsNumber := by
  simp only [NetworkVec2.isFinite, Bool.and_eq_true] at h
  exact ⟨Float32.not_isNaN_of_isFinite h.1, Float32.not_isNaN_of_isFinite h.2⟩

theorem readVec2_exactOn :
    ExactOn NetworkVec2.IsNumber (readVec2 (ε := ε)) writeVec2 := by
  rintro ⟨x, z⟩ ⟨hx, hz⟩ input rest
  simp only [readVec2, bind_eq_ok, pure_eq_ok, writeVec2]
  constructor
  · rintro ⟨x', _, h1, z', _, h2, heq, rfl⟩
    obtain ⟨rfl, rfl⟩ := NetworkVec2.mk.inj heq
    rw [(readF32_exactOn.eq_ok hx).mp h1, (readF32_exactOn.eq_ok hz).mp h2]
    simp
  · rintro rfl
    exact ⟨x, writeF32 z ++ rest, (readF32_exactOn.eq_ok hx).mpr (by simp),
      z, rest, readF32_exactOn.read_write hz rest, rfl, rfl⟩

theorem readActor_exactOn :
    ExactOn (fun actor => actor.position.IsNumber)
      (readActor (ε := ε)) writeActor := by
  intro actor hpos input rest
  simp only [readActor, readU32_exact.bind_eq_ok, readU8_exact.bind_eq_ok,
    readI32_exact.bind_eq_ok, bind_eq_ok (r := readVec2),
    bind_eq_ok (r := boolOfU8 _), boolOfU8_eq_ok, pure_eq_ok, writeActor]
  constructor
  · rintro ⟨id, _, rfl, role, _, rfl, archetype, _, rfl, position, _, hvec,
      health, _, rfl, encoded, _, rfl, weapon, _, rfl, cooldown, _, rfl,
      eliminations, _, rfl, alive, _, ⟨rfl, rfl⟩, rfl, rfl⟩
    rw [(readVec2_exactOn.eq_ok hpos).mp hvec]
    simp [writeBool]
  · rintro rfl
    refine ⟨_, _, by simp only [List.append_assoc]; rfl, _, _, rfl, _, _, rfl, actor.position, _,
      (readVec2_exactOn.eq_ok hpos).mpr rfl, _, _, rfl, _, _, rfl, _, _, rfl,
      _, _, rfl, _, _, rfl, actor.alive, _, ⟨rfl, rfl⟩, rfl, rfl⟩

theorem readLoot_exactOn :
    ExactOn (fun loot => loot.position.IsNumber)
      (readLoot (ε := ε)) writeLoot := by
  intro loot hpos input rest
  simp only [readLoot, readU32_exact.bind_eq_ok, readU8_exact.bind_eq_ok,
    readBool_exact.bind_eq_ok, bind_eq_ok (r := readVec2), pure_eq_ok,
    writeLoot]
  constructor
  · rintro ⟨id, _, rfl, type, _, rfl, position, _, hvec, active, _, rfl,
      rfl, rfl⟩
    rw [(readVec2_exactOn.eq_ok hpos).mp hvec]
    simp
  · rintro rfl
    exact ⟨_, _, by simp only [List.append_assoc], _, _, rfl, loot.position, _,
      (readVec2_exactOn.eq_ok hpos).mpr rfl, _, _, rfl, rfl, rfl⟩

/-- The worlds a full-precision encoding represents exactly. -/
structure GameSnapshot.Representable (snapshot : GameSnapshot) : Prop where
  center : snapshot.safeZoneCenter.IsNumber
  radius : snapshot.safeZoneRadius.isNaN = false
  actorCount : snapshot.actors.length ≤ maxSnapshotActors
  actors : ∀ actor ∈ snapshot.actors, actor.position.IsNumber
  lootCount : snapshot.loot.length ≤ maxSnapshotLoot
  loot : ∀ loot ∈ snapshot.loot, loot.position.IsNumber
  result : HasNormalResult snapshot.hasResult snapshot.result

theorem readGameSnapshot_exactOn :
    ExactOn GameSnapshot.Representable
      (readGameSnapshot (ε := ε)) writeGameSnapshot := by
  intro snapshot h input rest
  have hactors := readBoundedVector_exactOn (ε := ε)
    maxSnapshotActors readActor_exactOn (by decide)
    snapshot.actors ⟨h.actorCount, h.actors⟩
  have hloot := readBoundedVector_exactOn (ε := ε)
    maxSnapshotLoot readLoot_exactOn (by decide)
    snapshot.loot ⟨h.lootCount, h.loot⟩
  have hresult := readOptionalResult_exactOn (ε := ε) snapshot.hasResult
    snapshot.result h.result
  simp only [readGameSnapshot, readU32_exact.bind_eq_ok,
    readU8_exact.bind_eq_ok, readU64_exact.bind_eq_ok,
    readBool_exact.bind_eq_ok, bind_eq_ok (r := readVec2),
    bind_eq_ok (r := readF32), bind_eq_ok (r := readBoundedVector _ _),
    bind_eq_ok (r := readOptionalResult _), pure_eq_ok, writeGameSnapshot]
  constructor
  · rintro ⟨phase, _, rfl, stage, _, rfl, center, _, hcenter, radius, _,
      hradius, alive, _, rfl, actors, _, hacts, loot, _, hlts, hasResult, _,
      rfl, result, _, hres, checksum, _, rfl, rfl, rfl⟩
    rw [(readVec2_exactOn.eq_ok h.center).mp hcenter,
      (readF32_exactOn.eq_ok h.radius).mp hradius, (hactors _ _).mp hacts,
      (hloot _ _).mp hlts, (hresult _ _).mp hres]
    simp
  · rintro rfl
    exact ⟨_, _, by simp only [List.append_assoc], _, _, rfl, _, _,
      (readVec2_exactOn.eq_ok h.center).mpr rfl, _, _,
      (readF32_exactOn.eq_ok h.radius).mpr rfl, _, _, rfl, _, _,
      (hactors _ _).mpr rfl, _, _, (hloot _ _).mpr rfl, _, _, rfl, _, _,
      (hresult _ _).mpr rfl, _, _, rfl, rfl, rfl⟩

end Exactness

/-! ## Round trip -/

/-- The checks of `canonicalize` on a world already in ascending order. -/
structure GameSnapshot.Consistent (world : GameSnapshot) : Prop where
  phase : isValidPhase world.phase = true
  stage : isValidSafeZoneStage world.safeZoneStage = true
  center : world.safeZoneCenter.isFinite = true
  radius : world.safeZoneRadius.isFinite = true
  radiusNonneg : ¬world.safeZoneRadius < 0
  actorCount : world.actors.length ≤ maxSnapshotActors
  lootCount : world.loot.length ≤ maxSnapshotLoot
  actorOrder : Ascending NetworkActorSnapshot.id world.actors
  actors : ∀ actor ∈ world.actors, isValidActor actor = true
  lootOrder : Ascending NetworkLootSnapshot.id world.loot
  loot : ∀ loot ∈ world.loot, isValidLoot loot = true
  alive : world.aliveContenders =
    UInt32.ofNat (world.actors.countP isLivingContender)
  outcome : hasValidOutcome world = true

theorem canonicalize_eq_some {snapshot canonical : GameSnapshot} :
    canonicalize snapshot = some canonical ↔
      sortEntities snapshot = canonical ∧ canonical.Consistent := by
  have hactors : (sortEntities snapshot).actors.length = snapshot.actors.length :=
    (sortByKey_perm _).length_eq
  have hloot : (sortEntities snapshot).loot.length = snapshot.loot.length :=
    (sortByKey_perm _).length_eq
  constructor
  · intro h
    simp only [canonicalize] at h
    split at h
    · simp at h
    · rename_i hhead
      simp only [Bool.not_eq_false, Bool.and_eq_true, Bool.not_eq_eq_eq_not,
        Bool.not_true, decide_eq_true_eq, decide_eq_false_iff_not] at hhead
      obtain ⟨⟨⟨⟨⟨⟨hphase, hstage⟩, hcenter⟩, hradius⟩, hnonneg⟩, hac⟩, hlc⟩ :=
        hhead
      split_ifs at h with hact hlt halive hout
      simp only [Bool.or_eq_true, Bool.not_eq_true', not_or, Bool.not_eq_true,
        Bool.not_eq_false, List.all_eq_true] at hact hlt
      obtain rfl := Option.some.inj h
      exact ⟨rfl, {
        phase := hphase, stage := hstage, center := hcenter, radius := hradius
        radiusNonneg := hnonneg
        actorCount := by rw [hactors]; exact hac
        lootCount := by rw [hloot]; exact hlc
        actorOrder := ascending_of_pairwise_le (sortByKey_pairwise _) hact.1
        actors := hact.2
        lootOrder := ascending_of_pairwise_le (sortByKey_pairwise _) hlt.1
        loot := hlt.2
        alive := by simpa using halive
        outcome := hout }⟩
  · rintro ⟨rfl, hc⟩
    have hnonneg : decide (snapshot.safeZoneRadius < 0) = false :=
      decide_eq_false hc.radiusNonneg
    have hac := hc.actorCount
    have hlc := hc.lootCount
    rw [hactors] at hac
    rw [hloot] at hlc
    have hact : (sortEntities snapshot).actors.all isValidActor = true :=
      List.all_eq_true.mpr hc.actors
    have hlt : (sortEntities snapshot).loot.all isValidLoot = true :=
      List.all_eq_true.mpr hc.loot
    have hphase : isValidPhase snapshot.phase = true := hc.phase
    have hstage : isValidSafeZoneStage snapshot.safeZoneStage = true := hc.stage
    have hcenter : snapshot.safeZoneCenter.isFinite = true := hc.center
    have hradius : snapshot.safeZoneRadius.isFinite = true := hc.radius
    simp [canonicalize, hphase, hstage, hcenter, hradius, hnonneg, hac, hlc,
      hact, hlt, hc.actorOrder.hasAdjacentDuplicate_eq_false,
      hc.lootOrder.hasAdjacentDuplicate_eq_false, ← hc.alive, hc.outcome]

/-- The result of a world without one is reset to the default. -/
def GameSnapshot.normalizeResult (world : GameSnapshot) : GameSnapshot :=
  if world.hasResult then world else { world with result := {} }

theorem GameSnapshot.Consistent.normalizeResult {world : GameSnapshot}
    (h : world.Consistent) : world.normalizeResult.Consistent := by
  unfold GameSnapshot.normalizeResult
  split
  · exact h
  · rename_i hres
    have houtcome := h.outcome
    exact { h with outcome := by simp_all [hasValidOutcome] }

theorem GameSnapshot.Consistent.sortEntities_eq {world : GameSnapshot}
    (h : world.Consistent) : sortEntities world = world := by
  simp [sortEntities, sortByKey_eq_self h.actorOrder.pairwise_le,
    sortByKey_eq_self h.lootOrder.pairwise_le]

theorem GameSnapshot.Consistent.representable {world : GameSnapshot}
    (h : world.Consistent) : world.normalizeResult.Representable := by
  have hfin : ∀ actor ∈ world.actors, actor.position.IsNumber := by
    intro actor hactor
    have := h.actors actor hactor
    simp only [isValidActor, Bool.and_eq_true] at this
    exact NetworkVec2.isNumber_of_isFinite this.1.1.1.2
  have hloot : ∀ loot ∈ world.loot, loot.position.IsNumber := by
    intro loot hmem
    have := h.loot loot hmem
    simp only [isValidLoot, Bool.and_eq_true] at this
    exact NetworkVec2.isNumber_of_isFinite this.2
  unfold GameSnapshot.normalizeResult
  split
  · rename_i hres
    exact ⟨NetworkVec2.isNumber_of_isFinite h.center,
      Float32.not_isNaN_of_isFinite h.radius, h.actorCount, hfin, h.lootCount,
      hloot, by simp [HasNormalResult, hres]⟩
  · exact ⟨NetworkVec2.isNumber_of_isFinite h.center,
      Float32.not_isNaN_of_isFinite h.radius, h.actorCount, hfin, h.lootCount,
      hloot, fun _ => rfl⟩

theorem writeGameSnapshot_normalizeResult (world : GameSnapshot) :
    writeGameSnapshot world.normalizeResult = writeGameSnapshot world := by
  unfold GameSnapshot.normalizeResult
  split
  · rfl
  · simp_all [writeGameSnapshot]

/-- A world that can be encoded decodes to itself with its entities sorted and
an absent result reset. -/
theorem decodeGameSnapshot_encodeGameSnapshot {snapshot : GameSnapshot}
    {bytes : Bytes} (h : encodeGameSnapshot snapshot = .ok bytes) :
    decodeGameSnapshot bytes = .ok (sortEntities snapshot).normalizeResult := by
  rw [encodeGameSnapshot] at h
  cases hcanon : canonicalize snapshot with
  | none => simp [hcanon] at h
  | some canonical =>
    rw [hcanon, Option.elim_some] at h
    obtain ⟨rfl, hc⟩ := canonicalize_eq_some.mp hcanon
    obtain ⟨hlen, rfl⟩ := limitPayload_eq_ok.mp h
    have hread := readGameSnapshot_exactOn.read_write (ε := DecodeError)
      hc.representable []
    rw [List.append_nil, writeGameSnapshot_normalizeResult] at hread
    have hagain : canonicalize (sortEntities snapshot).normalizeResult =
        some (sortEntities snapshot).normalizeResult :=
      canonicalize_eq_some.mpr
        ⟨hc.normalizeResult.sortEntities_eq, hc.normalizeResult⟩
    rw [decodeGameSnapshot, if_neg hlen, hread]
    simp only [bind, Except.bind, hagain]
    rfl

/-- Every decoded world passed the canonical checks. -/
theorem decodeGameSnapshot_consistent {bytes : Bytes} {world : GameSnapshot}
    (h : decodeGameSnapshot bytes = .ok world) : world.Consistent := by
  unfold decodeGameSnapshot at h
  split at h
  · cases h
  · obtain ⟨⟨snapshot, rest⟩, -, h⟩ := except_bind_eq_ok.mp h
    cases hcanon : canonicalize snapshot with
    | none => simp [hcanon] at h
    | some canonical =>
      simp only [hcanon, Option.elim_some] at h
      split at h
      · obtain rfl := Except.ok.inj h
        exact (canonicalize_eq_some.mp hcanon).2
      · cases h

end SurvivalArena
