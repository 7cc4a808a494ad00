import SurvivalArena.Protocol.PayloadValidity

/-!
# Replication payload round trip

Each reader is exact for its writer on the values the validation admits.  From
that, what the encoder accepts decodes to its normal form, and a keyframe or
delta that decodes encodes to the bytes it came from.
-/

namespace SurvivalArena

open Wire KeyedList

/-! ## Records -/

theorem readHeader_exact : Exact readHeader writeHeader := by
  intro header input rest
  simp only [readHeader, readU8_exact.bind_eq_ok, readU32_exact.bind_eq_ok,
    pure_eq_ok, writeHeader]
  constructor
  · rintro ⟨kind, _, rfl, encoding, _, rfl, base, _, rfl, snapshotId, _, rfl,
      rfl, rfl⟩
    simp
  · rintro rfl
    exact ⟨_, _, by simp only [List.append_assoc], _, _, rfl, _, _, rfl, _, _,
      rfl, rfl, rfl⟩

theorem readQuantizedVec2_exact :
    Exact readQuantizedVec2 writeQuantizedVec2 := by
  intro value input rest
  simp only [readQuantizedVec2, readU16_exact.bind_eq_ok, pure_eq_ok,
    writeQuantizedVec2]
  constructor
  · rintro ⟨x, _, rfl, z, _, rfl, rfl, rfl⟩
    simp
  · rintro rfl
    exact ⟨_, _, by simp only [List.append_assoc], _, _, rfl, rfl, rfl⟩

theorem readQuantizedActor_exact :
    Exact readQuantizedActor writeQuantizedActor := by
  intro actor input rest
  simp only [readQuantizedActor, readU32_exact.bind_eq_ok,
    readU16_exact.bind_eq_ok, readU8_exact.bind_eq_ok,
    readQuantizedVec2_exact.bind_eq_ok, bind_eq_ok (r := boolOfU8 _),
    boolOfU8_eq_ok, pure_eq_ok, writeQuantizedActor]
  constructor
  · rintro ⟨id, _, rfl, role, _, rfl, archetype, _, rfl, position, _, rfl,
      health, _, rfl, encoded, _, rfl, weapon, _, rfl, cooldown, _, rfl,
      eliminations, _, rfl, alive, _, ⟨rfl, rfl⟩, rfl, rfl⟩
    simp [writeBool]
  · rintro rfl
    exact ⟨_, _, by simp only [List.append_assoc]; rfl, _, _, rfl, _, _, rfl,
      actor.position, _, rfl, _, _, rfl, _, _, rfl, _, _, rfl, _, _, rfl, _, _,
      rfl, actor.alive, _, ⟨rfl, rfl⟩, rfl, rfl⟩

theorem readQuantizedLoot_exact :
    Exact readQuantizedLoot writeQuantizedLoot := by
  intro loot input rest
  simp only [readQuantizedLoot, readU32_exact.bind_eq_ok,
    readU8_exact.bind_eq_ok, readBool_exact.bind_eq_ok,
    readQuantizedVec2_exact.bind_eq_ok, pure_eq_ok, writeQuantizedLoot]
  constructor
  · rintro ⟨id, _, rfl, type, _, rfl, position, _, rfl, active, _, rfl, rfl,
      rfl⟩
    simp
  · rintro rfl
    exact ⟨_, _, by simp only [List.append_assoc], _, _, rfl, _, _, rfl, _, _,
      rfl, rfl, rfl⟩

theorem readQuantizedGlobal_exactOn :
    ExactOn (fun global => HasNormalResult global.hasResult global.result)
      readQuantizedGlobal writeQuantizedGlobal := by
  intro global hglobal input rest
  have hresult := readOptionalResult_exactOn
    (ε := SnapshotPayloadDecodeError) global.hasResult global.result hglobal
  simp only [readQuantizedGlobal, readU8_exact.bind_eq_ok,
    readU16_exact.bind_eq_ok, readU64_exact.bind_eq_ok,
    readBool_exact.bind_eq_ok, readQuantizedVec2_exact.bind_eq_ok,
    bind_eq_ok (r := readOptionalResult _), pure_eq_ok, writeQuantizedGlobal]
  constructor
  · rintro ⟨phase, _, rfl, stage, _, rfl, center, _, rfl, radius, _, rfl,
      alive, _, rfl, hasResult, _, rfl, result, _, hres, checksum, _, rfl,
      rfl, rfl⟩
    rw [(hresult _ _).mp hres]
    simp
  · rintro rfl
    exact ⟨_, _, by simp only [List.append_assoc], _, _, rfl, _, _, rfl, _, _,
      rfl, _, _, rfl, _, _, rfl, _, _, (hresult _ _).mpr rfl, _, _, rfl, rfl,
      rfl⟩

/-- A field group agrees with its mask bit. -/
theorem readField_exact {α : Type} {readValue : PayloadReader α}
    {writeValue : α → Bytes} {P : α → Prop}
    (h : ExactOn P readValue writeValue) (present : Bool) (default : α) :
    ExactOn (fun value => if present then P value else value = default)
      (readField present readValue default)
      (fun value => writeField present (writeValue value)) :=
  h.optional present default

theorem readMapped_exact {α β : Type} {readValue : PayloadReader α}
    {writeValue : α → Bytes} (h : Exact readValue writeValue) (f : α → β)
    (g : β → α) (hfg : ∀ b, f (g b) = b) (hgf : ∀ a, g (f a) = a) :
    Exact (f <$> readValue) (fun b => writeValue (g b)) := by
  intro b input rest
  rw [map_eq_ok]
  constructor
  · rintro ⟨a, ha, rfl⟩
    simp only [hgf, h.eq_ok.mp ha]
  · rintro rfl
    exact ⟨g b, h.eq_ok.mpr rfl, hfg b⟩

theorem readHealthAlive_exact :
    Exact readHealthAlive fun value => writeU8 value.1 ++ writeBool value.2 := by
  intro value input rest
  simp only [readHealthAlive, readU8_exact.bind_eq_ok,
    readBool_exact.bind_eq_ok, pure_eq_ok]
  constructor
  · rintro ⟨health, _, rfl, alive, _, rfl, rfl, rfl⟩
    simp
  · rintro rfl
    exact ⟨_, _, by simp only [List.append_assoc], _, _, rfl, rfl, rfl⟩

theorem readWeaponCooldown_exact :
    Exact readWeaponCooldown
      fun value => writeU8 value.1.value ++ writeU16 value.2 := by
  intro value input rest
  simp only [readWeaponCooldown, readU8_exact.bind_eq_ok,
    readU16_exact.bind_eq_ok, pure_eq_ok]
  constructor
  · rintro ⟨weapon, _, rfl, cooldown, _, rfl, rfl, rfl⟩
    simp
  · rintro rfl
    exact ⟨_, _, by simp only [List.append_assoc], _, _, rfl, rfl, rfl⟩

theorem readSafeZone_exact :
    Exact readSafeZone fun value =>
      writeU8 value.1.value ++ writeQuantizedVec2 value.2.1 ++
        writeU16 value.2.2 := by
  intro value input rest
  simp only [readSafeZone, readU8_exact.bind_eq_ok, readU16_exact.bind_eq_ok,
    readQuantizedVec2_exact.bind_eq_ok, pure_eq_ok]
  constructor
  · rintro ⟨stage, _, rfl, center, _, rfl, radius, _, rfl, rfl, rfl⟩
    simp
  · rintro rfl
    exact ⟨_, _, by simp only [List.append_assoc], _, _, rfl, _, _, rfl, rfl,
      rfl⟩

theorem readDeltaResult_exactOn :
    ExactOn (fun value => HasNormalResult value.1 value.2) readDeltaResult
      fun value =>
        writeBool value.1 ++ if value.1 then writeResult value.2 else [] := by
  rintro ⟨hasResult, result⟩ hvalue input rest
  have hresult := readOptionalResult_exactOn
    (ε := SnapshotPayloadDecodeError) hasResult result hvalue
  simp only [readDeltaResult, readBool_exact.bind_eq_ok,
    bind_eq_ok (r := readOptionalResult _), pure_eq_ok]
  constructor
  · rintro ⟨present, _, rfl, value, _, hres, heq, rfl⟩
    obtain ⟨rfl, rfl⟩ := Prod.mk.inj heq
    rw [(hresult _ _).mp hres]
    simp
  · rintro rfl
    exact ⟨_, _, by simp only [List.append_assoc], _, _, (hresult _ _).mpr rfl,
      rfl, rfl⟩

/-- The actor deltas the wire format can represent. -/
def QuantizedActorDelta.Representable (actor : QuantizedActorDelta) : Prop :=
  (actor.fields != .none && isValidActorFieldMask actor.fields) = true ∧
    hasActorDefaults actor = true

theorem readActorDelta_exactOn :
    ExactOn QuantizedActorDelta.Representable readActorDelta
      writeActorDelta := by
  rintro actor ⟨hmask, hdefaults⟩ input rest
  simp only [hasActorDefaults, Bool.and_eq_true, Bool.or_eq_true,
    beq_iff_eq] at hdefaults
  obtain ⟨⟨⟨hpos, hhealth⟩, hweapon⟩, helim⟩ := hdefaults
  have hfields := readMapped_exact (readU8_exact
    (ε := SnapshotPayloadDecodeError)) ActorField.mk ActorField.value
    (fun _ => rfl) (fun _ => rfl)
  have hposition := readField_exact
    (readQuantizedVec2_exact.exactOn fun _ => True)
    (actor.fields.has .position) ({} : QuantizedActorDelta).position
    actor.position (by split <;> simp_all)
  have hha := readField_exact (readHealthAlive_exact.exactOn fun _ => True)
    (actor.fields.has .healthAlive)
    (({} : QuantizedActorDelta).health, ({} : QuantizedActorDelta).alive)
    (actor.health, actor.alive) (by split <;> simp_all)
  have hwc := readField_exact (readWeaponCooldown_exact.exactOn fun _ => True)
    (actor.fields.has .weaponCooldown)
    (({} : QuantizedActorDelta).weapon,
      ({} : QuantizedActorDelta).cooldownTicksRemaining)
    (actor.weapon, actor.cooldownTicksRemaining) (by split <;> simp_all)
  have hel := readField_exact
    ((readU8_exact (ε := SnapshotPayloadDecodeError)).exactOn fun _ => True)
    (actor.fields.has .eliminations) ({} : QuantizedActorDelta).eliminations
    actor.eliminations (by split <;> simp_all)
  simp only [readActorDelta, readU32_exact.bind_eq_ok, hfields.bind_eq_ok,
    require_bind_eq_ok, bind_eq_ok (r := readField _ _ _), pure_eq_ok,
    writeActorDelta]
  constructor
  · rintro ⟨id, _, rfl, fields, _, rfl, -, position, _, h1, ha, _, h2, wc, _,
      h3, elims, _, h4, rfl, rfl⟩
    rw [(hposition _ _).mp h1, (hha _ _).mp h2, (hwc _ _).mp h3,
      (hel _ _).mp h4]
    simp
  · rintro rfl
    exact ⟨_, _, by simp only [List.append_assoc], actor.fields, _, rfl,
      hmask, _, _, (hposition _ _).mpr rfl, _, _, (hha _ _).mpr rfl, _, _,
      (hwc _ _).mpr rfl, _, _, (hel _ _).mpr rfl, rfl, rfl⟩

/-- The global deltas the wire format can represent. -/
structure QuantizedGlobalDelta.Representable (global : QuantizedGlobalDelta) :
    Prop where
  mask : isValidGlobalFieldMask global.fields = true
  defaults : hasGlobalDefaults global = true
  result : HasNormalResult global.hasResult global.result

theorem readGlobalDelta_exactOn :
    ExactOn QuantizedGlobalDelta.Representable readGlobalDelta
      writeGlobalDelta := by
  rintro global ⟨hmask, hdefaults, hnormal⟩ input rest
  simp only [hasGlobalDefaults, Bool.and_eq_true, Bool.or_eq_true,
    beq_iff_eq] at hdefaults
  obtain ⟨⟨⟨⟨hp, hsz⟩, hac⟩, hres⟩, hec⟩ := hdefaults
  have hfields := readMapped_exact (readU8_exact
    (ε := SnapshotPayloadDecodeError)) GlobalField.mk GlobalField.value
    (fun _ => rfl) (fun _ => rfl)
  have hphase := readField_exact
    ((readMapped_exact (readU8_exact (ε := SnapshotPayloadDecodeError))
      NetworkMatchPhase.mk NetworkMatchPhase.value
      (fun _ => rfl) (fun _ => rfl)).exactOn fun _ => True)
    (global.fields.has .phase) ({} : QuantizedGlobalDelta).phase
    global.phase (by split <;> simp_all)
  have hzone := readField_exact (readSafeZone_exact.exactOn fun _ => True)
    (global.fields.has .safeZone)
    (({} : QuantizedGlobalDelta).safeZoneStage,
      ({} : QuantizedGlobalDelta).safeZoneCenter,
      ({} : QuantizedGlobalDelta).safeZoneRadius)
    (global.safeZoneStage, global.safeZoneCenter, global.safeZoneRadius)
    (by split <;> simp_all)
  have halive := readField_exact
    ((readU8_exact (ε := SnapshotPayloadDecodeError)).exactOn fun _ => True)
    (global.fields.has .aliveContenders)
    ({} : QuantizedGlobalDelta).aliveContenders global.aliveContenders
    (by split <;> simp_all)
  have hresult := readField_exact readDeltaResult_exactOn
    (global.fields.has .result)
    (({} : QuantizedGlobalDelta).hasResult, ({} : QuantizedGlobalDelta).result)
    (global.hasResult, global.result) (by split <;> simp_all)
  have hsum := readField_exact
    ((readU64_exact (ε := SnapshotPayloadDecodeError)).exactOn fun _ => True)
    (global.fields.has .eventChecksum)
    ({} : QuantizedGlobalDelta).eventChecksum global.eventChecksum
    (by split <;> simp_all)
  simp only [readGlobalDelta, hfields.bind_eq_ok, require_bind_eq_ok,
    bind_eq_ok (r := readField _ _ _), pure_eq_ok, writeGlobalDelta]
  constructor
  · rintro ⟨fields, _, rfl, -, phase, _, h1, zone, _, h2, alive, _, h3, result,
      _, h4, checksum, _, h5, rfl, rfl⟩
    rw [(hphase _ _).mp h1, (hzone _ _).mp h2, (halive _ _).mp h3,
      (hresult _ _).mp h4, (hsum _ _).mp h5]
    simp
  · rintro rfl
    exact ⟨global.fields, _, by simp only [List.append_assoc], hmask, _, _,
      (hphase _ _).mpr rfl, _, _, (hzone _ _).mpr rfl, _, _,
      (halive _ _).mpr rfl, _, _, (hresult _ _).mpr rfl, _, _,
      (hsum _ _).mpr rfl, rfl, rfl⟩

theorem readLootDelta_exactOn :
    ExactOn (fun loot => loot.fields = .active) readLootDelta
      writeLootDelta := by
  intro loot hloot input rest
  have hfields := readMapped_exact (readU8_exact
    (ε := SnapshotPayloadDecodeError)) LootField.mk LootField.value
    (fun _ => rfl) (fun _ => rfl)
  simp only [readLootDelta, readU32_exact.bind_eq_ok, hfields.bind_eq_ok,
    require_bind_eq_ok, readBool_exact.bind_eq_ok, pure_eq_ok, beq_iff_eq,
    writeLootDelta]
  constructor
  · rintro ⟨id, _, rfl, fields, _, rfl, -, active, _, rfl, rfl, rfl⟩
    simp
  · rintro rfl
    exact ⟨_, _, by simp only [List.append_assoc], loot.fields, _, rfl,
      hloot, _, _, rfl, rfl, rfl⟩

theorem readRemovedActor_exact :
    Exact readRemovedActor fun actor => writeU32 actor.value :=
  readMapped_exact readU32_exact Tagged.mk Tagged.value
    (fun _ => rfl) (fun _ => rfl)

/-! ## Bodies -/

theorem QuantizedActorDelta.representable {actor : QuantizedActorDelta}
    (h : isValidQuantizedActorDelta actor = true) : actor.Representable := by
  simp only [isValidQuantizedActorDelta, Bool.and_eq_true] at h
  exact ⟨by simp [h.1.1.1.1, h.1.1.1.2], h.1.1.2⟩

theorem QuantizedGlobalDelta.representable {global : QuantizedGlobalDelta}
    (h : isValidQuantizedGlobalDelta global = true) :
    global.Representable := by
  simp only [isValidQuantizedGlobalDelta, Bool.and_eq_true] at h
  obtain ⟨⟨⟨⟨⟨hmask, hdefaults⟩, -⟩, -⟩, -⟩, hresult⟩ := h
  refine ⟨hmask, hdefaults, fun hnone => ?_⟩
  simp only [hasGlobalDefaults, Bool.and_eq_true, Bool.or_eq_true,
    beq_iff_eq] at hdefaults
  simp only [isValidDeltaResult, Bool.and_eq_true, Bool.or_eq_true,
    Bool.not_eq_true', beq_iff_eq, hnone] at hresult
  rcases hresult with hno | h
  · rcases hdefaults.1.2 with hyes | h
    · rw [hno] at hyes
      exact absurd hyes (by decide)
    · exact h.1
  · simpa using h.1.1.2

theorem readDelta_eq_ok {header : SnapshotPayloadHeader}
    {payload : SnapshotPayload} (hheader : payload.header = header)
    (h : ValidDelta payload) (hprecision : payload.fullPrecision = {})
    (hglobal : payload.global = {}) {input rest : Bytes} :
    readDelta { header } input = .ok (payload, rest) ↔
      input = writeDelta payload ++ rest := by
  have hac := h.actorCount
  have hlc := h.lootCount
  simp only [actorRecordCount, lootRecordCount] at hac hlc
  have hg := readGlobalDelta_exactOn payload.globalDelta
    (QuantizedGlobalDelta.representable h.global)
  have hav := readBoundedVector_exactOn maxSnapshotActors
    (readQuantizedActor_exact.exactOn fun _ => True) (by decide)
    payload.actorValues ⟨by omega, fun _ _ => trivial⟩
  have had := readBoundedVector_exactOn maxSnapshotActors
    readActorDelta_exactOn (by decide) payload.actorDeltas
    ⟨by omega, fun actor ha =>
      QuantizedActorDelta.representable (h.actorDeltas actor ha)⟩
  have hra := readBoundedVector_exactOn maxSnapshotActors
    (readRemovedActor_exact.exactOn fun _ => True) (by decide)
    payload.removedActors ⟨by omega, fun _ _ => trivial⟩
  have hlv := readBoundedVector_exactOn maxSnapshotLoot
    (readQuantizedLoot_exact.exactOn fun _ => True) (by decide)
    payload.lootValues ⟨by omega, fun _ _ => trivial⟩
  have hld := readBoundedVector_exactOn maxSnapshotLoot
    readLootDelta_exactOn (by decide) payload.lootDeltas
    ⟨by omega, h.lootDeltas⟩
  have hrl := readBoundedVector_exactOn maxSnapshotLoot
    ((readU32_exact (ε := SnapshotPayloadDecodeError)).exactOn fun _ => True)
    (by decide) payload.removedLoot ⟨by omega, fun _ _ => trivial⟩
  simp only [readDelta, bind_eq_ok (r := readGlobalDelta),
    bind_eq_ok (r := readBoundedVector _ _), require_bind_eq_ok, pure_eq_ok,
    writeDelta]
  constructor
  · rintro ⟨g, _, h1, av, _, h2, ad, _, h3, ra, _, h4, lv, _, h5, ld, _, h6,
      rl, _, h7, -, heq, rfl⟩
    subst heq
    rw [(hg _ _).mp h1, (hav _ _).mp h2, (had _ _).mp h3, (hra _ _).mp h4,
      (hlv _ _).mp h5, (hld _ _).mp h6, (hrl _ _).mp h7]
    simp
  · rintro rfl
    have heq : ({ header
                  globalDelta := payload.globalDelta
                  actorValues := payload.actorValues
                  actorDeltas := payload.actorDeltas
                  removedActors := payload.removedActors
                  lootValues := payload.lootValues
                  lootDeltas := payload.lootDeltas
                  removedLoot := payload.removedLoot } : SnapshotPayload) =
        payload := by
      rw [← hheader, ← hprecision, ← hglobal]
    refine ⟨_, _, (hg _ _).mpr (by simp only [List.append_assoc]), _, _,
      (hav _ _).mpr rfl, _, _, (had _ _).mpr rfl, _, _, (hra _ _).mpr rfl, _, _,
      (hlv _ _).mpr rfl, _, _, (hld _ _).mpr rfl, _, _, (hrl _ _).mpr rfl, ?_,
      heq, rfl⟩
    rw [heq]
    simp [h.actorCount, h.lootCount]

/-- The worlds a quantized keyframe represents exactly. -/
structure QuantizedWorld.Representable (world : QuantizedWorld) : Prop where
  actorCount : world.actors.length ≤ maxSnapshotActors
  lootCount : world.loot.length ≤ maxSnapshotLoot
  result : HasNormalResult world.global.hasResult world.global.result

theorem readQuantizedKeyframe_eq_ok {header : SnapshotPayloadHeader}
    {payload : SnapshotPayload} (hheader : payload.header = header)
    (h : payload.worldFromKeyframe.Representable) (hdeltas : NoDeltaRecords payload)
    (hprecision : payload.fullPrecision = {}) {input rest : Bytes} :
    readQuantizedKeyframe { header } input = .ok (payload, rest) ↔
      input = writeQuantizedKeyframe payload ++ rest := by
  have hg := readQuantizedGlobal_exactOn payload.global h.result
  have hav := readBoundedVector_exactOn maxSnapshotActors
    (readQuantizedActor_exact.exactOn fun _ => True) (by decide)
    payload.actorValues ⟨h.actorCount, fun _ _ => trivial⟩
  have hlv := readBoundedVector_exactOn maxSnapshotLoot
    (readQuantizedLoot_exact.exactOn fun _ => True) (by decide)
    payload.lootValues ⟨h.lootCount, fun _ _ => trivial⟩
  simp only [readQuantizedKeyframe, bind_eq_ok (r := readQuantizedGlobal),
    bind_eq_ok (r := readBoundedVector _ _), pure_eq_ok,
    writeQuantizedKeyframe]
  constructor
  · rintro ⟨g, _, h1, av, _, h2, lv, _, h3, heq, rfl⟩
    subst heq
    rw [(hg _ _).mp h1, (hav _ _).mp h2, (hlv _ _).mp h3]
    simp
  · rintro rfl
    have heq : ({ header
                  global := payload.global
                  actorValues := payload.actorValues
                  lootValues := payload.lootValues } : SnapshotPayload) =
        payload := by
      obtain ⟨h1, h2, h3, h4, h5⟩ := hdeltas
      rw [← hheader, ← hprecision, ← h1, ← h2, ← h3, ← h4, ← h5]
    exact ⟨_, _, (hg _ _).mpr (by simp only [List.append_assoc]), _, _,
      (hav _ _).mpr rfl, _, _, (hlv _ _).mpr rfl, heq, rfl⟩

/-! ## Payloads -/

theorem requireCanonicalOrder_eq_ok {α κ : Type} [LinearOrder κ]
    {key : α → κ} {values : List α} {input rest : Bytes} {u : Unit} :
    requireCanonicalOrder (checkCanonicalOrder key values) input =
        .ok (u, rest) ↔ Ascending key values ∧ input = rest := by
  rw [← checkCanonicalOrder_eq_canonical]
  cases checkCanonicalOrder key values <;>
    simp [requireCanonicalOrder, pure_eq_ok, stop]

theorem requireCanonicalOrder_bind_eq_ok {α β κ : Type} [LinearOrder κ]
    {key : α → κ} {values : List α} {next : Unit → PayloadReader β}
    {input rest : Bytes} {b : β} :
    (requireCanonicalOrder (checkCanonicalOrder key values) >>= next) input =
        .ok (b, rest) ↔
      Ascending key values ∧ next () input = .ok (b, rest) := by
  simp only [bind_eq_ok, requireCanonicalOrder_eq_ok]
  constructor
  · rintro ⟨u, mid, ⟨ha, rfl⟩, hn⟩
    exact ⟨ha, hn⟩
  · rintro ⟨ha, hn⟩
    exact ⟨(), input, ⟨ha, rfl⟩, hn⟩

/-- The order of the entities of a keyframe body. -/
def KeyframeOrder (payload : SnapshotPayload) : Prop :=
  if payload.header.valueEncoding = .fullPrecision then
    Ascending NetworkActorSnapshot.id payload.fullPrecision.actors ∧
      Ascending NetworkLootSnapshot.id payload.fullPrecision.loot
  else
    Ascending QuantizedActorValue.id payload.actorValues ∧
      Ascending QuantizedLootValue.id payload.lootValues

theorem validateKeyframeCanonicalOrder_bind_eq_ok {β : Type}
    {payload : SnapshotPayload} {next : Unit → PayloadReader β}
    {input rest : Bytes} {b : β} :
    (validateKeyframeCanonicalOrder payload >>= next) input =
        .ok (b, rest) ↔
      KeyframeOrder payload ∧ next () input = .ok (b, rest) := by
  by_cases henc : payload.header.valueEncoding = .fullPrecision <;>
    simp only [validateKeyframeCanonicalOrder, KeyframeOrder, henc, if_true, if_false, bind_assoc,
      requireCanonicalOrder_bind_eq_ok, and_assoc]

/-- The order of the records of a delta. -/
structure DeltaOrder (payload : SnapshotPayload) : Prop where
  actorValues : Ascending QuantizedActorValue.id payload.actorValues
  actorDeltas : Ascending QuantizedActorDelta.id payload.actorDeltas
  removedActors : Ascending id payload.removedActors
  lootValues : Ascending QuantizedLootValue.id payload.lootValues
  lootDeltas : Ascending QuantizedLootDelta.id payload.lootDeltas
  removedLoot : Ascending id payload.removedLoot
  actors : (actorRecordIds payload).Nodup
  loot : (lootRecordIds payload).Nodup

theorem validateDeltaCanonicalOrder_bind_eq_ok {β : Type}
    {payload : SnapshotPayload} {next : Unit → PayloadReader β}
    {input rest : Bytes} {b : β} :
    (validateDeltaCanonicalOrder payload >>= next) input = .ok (b, rest) ↔
      DeltaOrder payload ∧ next () input = .ok (b, rest) := by
  simp only [validateDeltaCanonicalOrder, bind_assoc,
    requireCanonicalOrder_bind_eq_ok, require_bind_eq_ok, Bool.not_eq_true',
    Bool.or_eq_false_iff, hasDuplicateActorCategory_eq_false,
    hasDuplicateLootCategory_eq_false]
  constructor
  · rintro ⟨h1, h2, h3, h4, h5, h6, ⟨h7, h8⟩, hn⟩
    exact ⟨⟨h1, h2, h3, h4, h5, h6, h7, h8⟩, hn⟩
  · rintro ⟨⟨h1, h2, h3, h4, h5, h6, h7, h8⟩, hn⟩
    exact ⟨h1, h2, h3, h4, h5, h6, ⟨h7, h8⟩, hn⟩

theorem ValidDelta.order {payload : SnapshotPayload} (h : ValidDelta payload) :
    DeltaOrder payload :=
  ⟨h.actorValueOrder, h.actorDeltaOrder, h.removedActorOrder,
    h.lootValueOrder, h.lootDeltaOrder, h.removedLootOrder, h.actorNodup,
    h.lootNodup⟩

/-- The default full-precision body compares equal to itself. -/
theorem hasDefaultPrecisionBody_default {payload : SnapshotPayload}
    (h : payload.fullPrecision = {}) :
    hasDefaultPrecisionBody payload = true := by
  rw [hasDefaultPrecisionBody, h]
  decide +kernel

theorem decodeSnapshotPayload_eq_ok {bytes : Bytes}
    {payload : SnapshotPayload} :
    decodeSnapshotPayload bytes = .ok payload ↔
      ¬maxSnapshotPayloadBytes < bytes.length ∧
        readPayload bytes = .ok (payload, []) ∧ ValidPayload payload := by
  rw [← validatePayload_eq_ok]
  unfold decodeSnapshotPayload
  split
  · simp_all
  · rename_i hlen
    rw [except_bind_eq_ok]
    constructor
    · rintro ⟨⟨read, rest⟩, hread, h⟩
      dsimp only at h
      split at h
      · simp at h
      · rename_i hrest
        obtain rfl : rest = [] := by simpa using hrest
        cases hv : validatePayload read with
        | error e => simp [hv, Except.mapError, bind, Except.bind] at h
        | ok u =>
          simp only [hv, Except.mapError, bind, Except.bind, pure, Except.pure,
            Except.ok.injEq] at h
          subst h
          exact ⟨hlen, hread, hv⟩
    · rintro ⟨-, hread, hv⟩
      refine ⟨(payload, []), hread, ?_⟩
      simp [hv, Except.mapError, bind, Except.bind, pure, Except.pure]

theorem readPayload_eq_ok {bytes rest : Bytes} {payload : SnapshotPayload} :
    readPayload bytes = .ok (payload, rest) ↔
      ∃ header body, bytes = writeHeader header ++ body ∧
        isValidHeader header = true ∧
        readBody { header } body = .ok (payload, rest) := by
  simp only [readPayload, readHeader_exact.bind_eq_ok, require_bind_eq_ok]

theorem encodeSnapshotPayload_eq_ok {payload : SnapshotPayload}
    {bytes : Bytes} :
    encodeSnapshotPayload payload = .ok bytes ↔
      ValidPayload payload ∧ ∃ body, writeBody payload = .ok body ∧
        ¬maxSnapshotPayloadBytes < bytes.length ∧
        writeHeader payload.header ++ body = bytes := by
  simp only [encodeSnapshotPayload, except_bind_eq_ok, limitPayload_eq_ok]
  constructor
  · rintro ⟨u, hv, body, hb, hlen, rfl⟩
    exact ⟨validatePayload_eq_ok.mp hv, body, hb, hlen, rfl⟩
  · rintro ⟨hv, body, hb, hlen, rfl⟩
    exact ⟨(), validatePayload_eq_ok.mpr hv, body, hb, hlen, rfl⟩

/-- Resets the result of each body that has none. -/
def QuantizedGlobalValue.normalizeResult (global : QuantizedGlobalValue) :
    QuantizedGlobalValue :=
  if global.hasResult then global else { global with result := {} }

/-- Full-state entities sorted, absent results reset. -/
def SnapshotPayload.sortAndResetResult (payload : SnapshotPayload) :
    SnapshotPayload :=
  if payload.header.kind = .fullState then
    { payload with
      fullPrecision := (sortEntities payload.fullPrecision).normalizeResult }
  else
    { payload with
      fullPrecision := payload.fullPrecision.normalizeResult
      global := payload.global.normalizeResult }

/-- The normal form also resets the full-precision body a quantized payload
does not use: it was compared with the default by IEEE equality. -/
def SnapshotPayload.normalize (payload : SnapshotPayload) : SnapshotPayload :=
  if payload.header.valueEncoding = .fullPrecision then
    payload.sortAndResetResult
  else { payload.sortAndResetResult with fullPrecision := {} }

private theorem readResult_normal {ε : Type} [ReadErrors ε] {hasResult : Bool}
    {result : NetworkMatchResult} {input rest : Bytes}
    (h : readOptionalResult (ε := ε) hasResult input = .ok (result, rest)) :
    HasNormalResult hasResult result := by
  rintro rfl
  exact (pure_eq_ok.mp h).1.symm

private theorem readGameSnapshot_normal {snapshot : GameSnapshot}
    {input rest : Bytes}
    (h : readPrecisionKeyframe input = .ok (snapshot, rest)) :
    HasNormalResult snapshot.hasResult snapshot.result := by
  simp only [readPrecisionKeyframe, readGameSnapshot, bind_eq_ok,
    pure_eq_ok] at h
  obtain ⟨_, _, -, _, _, -, _, _, -, _, _, -, _, _, -, _, _, -, _, _, -, _, _,
    -, _, _, hresult, _, _, -, rfl, -⟩ := h
  exact readResult_normal hresult

private theorem readQuantizedGlobal_normal {global : QuantizedGlobalValue}
    {input rest : Bytes} (h : readQuantizedGlobal input = .ok (global, rest)) :
    HasNormalResult global.hasResult global.result := by
  simp only [readQuantizedGlobal, bind_eq_ok, pure_eq_ok] at h
  obtain ⟨_, _, -, _, _, -, _, _, -, _, _, -, _, _, -, _, _, -, _, _, hresult,
    _, _, -, rfl, -⟩ := h
  exact readResult_normal hresult

/-- A quantized keyframe is read into its own parts only. -/
private theorem readQuantizedKeyframe_shape {header : SnapshotPayloadHeader}
    {payload : SnapshotPayload} {input rest : Bytes}
    (h : readQuantizedKeyframe { header } input = .ok (payload, rest)) :
    payload.header = header ∧ payload.fullPrecision = {} ∧
      HasNormalResult payload.global.hasResult payload.global.result := by
  simp only [readQuantizedKeyframe, bind_eq_ok, pure_eq_ok] at h
  obtain ⟨_, _, hglobal, _, _, -, _, _, -, rfl, -⟩ := h
  exact ⟨rfl, rfl, readQuantizedGlobal_normal hglobal⟩

private theorem readDelta_shape {header : SnapshotPayloadHeader}
    {payload : SnapshotPayload} {input rest : Bytes}
    (h : readDelta { header } input = .ok (payload, rest)) :
    payload.header = header ∧ payload.fullPrecision = {} := by
  simp only [readDelta, bind_eq_ok (r := readGlobalDelta),
    bind_eq_ok (r := readBoundedVector _ _), require_bind_eq_ok,
    pure_eq_ok] at h
  obtain ⟨_, _, -, _, _, -, _, _, -, _, _, -, _, _, -, _, _, -, _, _, -, -, rfl,
    -⟩ := h
  exact ⟨rfl, rfl⟩

/-- The valid precision keyframes are represented exactly. -/
theorem ValidPrecisionKeyframe.representable {payload : SnapshotPayload}
    (h : ValidPrecisionKeyframe payload)
    (hnormal : HasNormalResult payload.fullPrecision.hasResult
      payload.fullPrecision.result) :
    payload.fullPrecision.Representable := by
  have hg := h.global
  simp only [isValidPrecisionGlobal, Bool.and_eq_true] at hg
  obtain ⟨⟨⟨⟨⟨-, hcenter⟩, hradius⟩, -⟩, -⟩, -⟩ := hg
  refine ⟨NetworkVec2.isNumber_of_isFinite hcenter,
    Float32.not_isNaN_of_isFinite hradius, h.actorCount, ?_, h.lootCount, ?_,
    hnormal⟩
  · intro actor hactor
    have := h.actors actor hactor
    simp only [isValidPrecisionActor, isValidActor, Bool.and_eq_true] at this
    exact NetworkVec2.isNumber_of_isFinite this.1.1.1.2
  · intro loot hloot
    have := h.loot loot hloot
    simp only [isValidLoot, Bool.and_eq_true] at this
    exact NetworkVec2.isNumber_of_isFinite this.2

/-- The body readers copy the header and fill only their own parts. -/
inductive ReadShape (header : SnapshotPayloadHeader)
    (payload : SnapshotPayload) (input rest : Bytes) : Prop where
  | precisionKeyframe (kind : header.kind = .keyframe)
      (encoding : header.valueEncoding = .fullPrecision)
      (body : readPrecisionKeyframe input = .ok (payload.fullPrecision, rest))
  | quantizedKeyframe (kind : header.kind = .keyframe)
      (encoding : header.valueEncoding ≠ .fullPrecision)
      (body : readQuantizedKeyframe { header } input = .ok (payload, rest))
  | delta (kind : header.kind ≠ .keyframe)
      (body : readDelta { header } input = .ok (payload, rest))

theorem readBody_shape {header : SnapshotPayloadHeader}
    {payload : SnapshotPayload} {input rest : Bytes}
    (hkind : header.kind ≠ .fullState)
    (h : readBody { header } input = .ok (payload, rest)) :
    payload.header = header ∧ ReadShape header payload input rest := by
  rw [readBody, if_neg hkind] at h
  split at h
  · rename_i hkey
    simp only [bind_eq_ok (r := readKeyframe _),
      validateKeyframeCanonicalOrder_bind_eq_ok, pure_eq_ok] at h
    obtain ⟨p, mid, hp, -, rfl, rfl⟩ := h
    unfold readKeyframe at hp
    split at hp
    · rename_i henc
      simp only [bind_eq_ok, pure_eq_ok] at hp
      obtain ⟨s, _, hs, rfl, rfl⟩ := hp
      exact ⟨rfl, .precisionKeyframe hkey henc hs⟩
    · rename_i henc
      exact ⟨(readQuantizedKeyframe_shape hp).1,
        .quantizedKeyframe hkey henc hp⟩
  · rename_i hkey
    simp only [bind_eq_ok (r := readDelta _),
      validateDeltaCanonicalOrder_bind_eq_ok, pure_eq_ok] at h
    obtain ⟨p, mid, hp, -, rfl, rfl⟩ := h
    exact ⟨(readDelta_shape hp).1, .delta hkey hp⟩

/-- A keyframe or delta that decodes encodes to the bytes it came from. -/
theorem encodeSnapshotPayload_decodeSnapshotPayload {bytes : Bytes}
    {payload : SnapshotPayload}
    (h : decodeSnapshotPayload bytes = .ok payload)
    (hkind : payload.header.kind ≠ .fullState) :
    encodeSnapshotPayload payload = .ok bytes := by
  obtain ⟨hlen, hread, hvalid⟩ := decodeSnapshotPayload_eq_ok.mp h
  obtain ⟨header, body, rfl, -, hbody⟩ := readPayload_eq_ok.mp hread
  have hfull : header.kind ≠ .fullState := by
    intro hfull
    rw [readBody, if_pos hfull] at hbody
    obtain ⟨s, _, -, hp⟩ := bind_eq_ok.mp hbody
    obtain ⟨rfl, -⟩ := pure_eq_ok.mp hp
    exact hkind hfull
  obtain ⟨rfl, hshape⟩ := readBody_shape hfull hbody
  refine encodeSnapshotPayload_eq_ok.mpr ⟨hvalid, body, ?_, hlen, rfl⟩
  rw [writeBody, if_neg hkind]
  cases hshape with
  | precisionKeyframe hkey henc hs =>
    rw [if_pos hkey, if_pos henc]
    cases hvalid with
    | fullState _ hk => exact (hkind hk).elim
    | precisionKeyframe _ _ _ _ _ hv =>
      have hrep := hv.representable (readGameSnapshot_normal hs)
      have heq := (readGameSnapshot_exactOn.eq_ok hrep).mp hs
      rw [heq, List.append_nil]
      rfl
    | quantizedKeyframe _ _ hne => exact (hne henc).elim
    | delta _ _ hne => exact (hne hkey).elim
  | quantizedKeyframe hkey henc hq =>
    rw [if_pos hkey, if_neg henc]
    obtain ⟨-, hprecision, hnormal⟩ := readQuantizedKeyframe_shape hq
    cases hvalid with
    | fullState _ hk => exact (hkind hk).elim
    | precisionKeyframe _ _ he => exact (henc he).elim
    | quantizedKeyframe _ _ _ hdeltas _ hv =>
      have heq := (readQuantizedKeyframe_eq_ok rfl
        ⟨hv.actorCount, hv.lootCount, hnormal⟩ hdeltas hprecision).mp hq
      rw [heq, List.append_nil]
    | delta _ _ hne => exact (hne hkey).elim
  | delta hkey hd =>
    rw [if_neg hkey]
    obtain ⟨-, hprecision⟩ := readDelta_shape hd
    cases hvalid with
    | fullState _ hk => exact (hkind hk).elim
    | precisionKeyframe _ hk => exact (hkey hk).elim
    | quantizedKeyframe _ hk => exact (hkey hk).elim
    | delta _ _ _ _ hglobal hv =>
      have heq := (readDelta_eq_ok rfl hv hprecision hglobal).mp hd
      rw [heq, List.append_nil]

/-! ## Decoding an encoded payload -/

theorem readBody_precisionKeyframe {header : SnapshotPayloadHeader}
    {payload : SnapshotPayload} {input rest : Bytes}
    (hheader : payload.header = header) (hkind : header.kind = .keyframe)
    (henc : header.valueEncoding = .fullPrecision)
    (hdeltas : NoDeltaRecords payload) (hquantized : NoQuantizedBody payload)
    (hbody : ValidPrecisionKeyframe payload)
    (hread : readPrecisionKeyframe input =
      .ok (payload.fullPrecision, rest)) :
    readBody { header } input = .ok (payload, rest) := by
  subst hheader
  have hne : payload.header.kind ≠ .fullState := by rw [hkind]; decide
  have heq : ({ header := payload.header
                fullPrecision := payload.fullPrecision } : SnapshotPayload) =
      payload := by
    obtain ⟨h1, h2, h3, h4, h5⟩ := hdeltas
    obtain ⟨h6, h7, h8⟩ := hquantized
    rw [← h1, ← h2, ← h3, ← h4, ← h5, ← h6, ← h7, ← h8]
  have horder : KeyframeOrder payload := by
    rw [KeyframeOrder, if_pos henc]
    exact ⟨hbody.actorOrder, hbody.lootOrder⟩
  rw [readBody, if_neg hne, if_pos hkind]
  refine bind_eq_ok.mpr ⟨payload, rest, ?_,
    validateKeyframeCanonicalOrder_bind_eq_ok.mpr ⟨horder, rfl⟩⟩
  rw [readKeyframe, if_pos henc]
  exact bind_eq_ok.mpr ⟨_, rest, hread, pure_eq_ok.mpr ⟨heq, rfl⟩⟩

theorem readBody_quantizedKeyframe {header : SnapshotPayloadHeader}
    {payload : SnapshotPayload} {input rest : Bytes}
    (hheader : payload.header = header) (hkind : header.kind = .keyframe)
    (henc : header.valueEncoding ≠ .fullPrecision)
    (hbody : payload.worldFromKeyframe.Valid)
    (hread : readQuantizedKeyframe { header } input = .ok (payload, rest)) :
    readBody { header } input = .ok (payload, rest) := by
  subst hheader
  have hne : payload.header.kind ≠ .fullState := by rw [hkind]; decide
  have horder : KeyframeOrder payload := by
    rw [KeyframeOrder, if_neg henc]
    exact ⟨hbody.actorOrder, hbody.lootOrder⟩
  rw [readBody, if_neg hne, if_pos hkind]
  refine bind_eq_ok.mpr ⟨payload, rest, ?_,
    validateKeyframeCanonicalOrder_bind_eq_ok.mpr ⟨horder, rfl⟩⟩
  rw [readKeyframe, if_neg henc]
  exact hread

theorem readBody_delta {header : SnapshotPayloadHeader}
    {payload : SnapshotPayload} {input rest : Bytes}
    (hheader : payload.header = header) (hfull : header.kind ≠ .fullState)
    (hkey : header.kind ≠ .keyframe) (hbody : ValidDelta payload)
    (hread : readDelta { header } input = .ok (payload, rest)) :
    readBody { header } input = .ok (payload, rest) := by
  subst hheader
  rw [readBody, if_neg hfull, if_neg hkey]
  exact bind_eq_ok.mpr ⟨payload, rest, hread,
    validateDeltaCanonicalOrder_bind_eq_ok.mpr ⟨hbody.order, rfl⟩⟩

theorem writeQuantizedGlobal_normalizeResult (global : QuantizedGlobalValue) :
    writeQuantizedGlobal global.normalizeResult =
      writeQuantizedGlobal global := by
  unfold QuantizedGlobalValue.normalizeResult
  split
  · rfl
  · simp_all [writeQuantizedGlobal]

theorem isValidQuantizedGlobal_normalizeResult
    (global : QuantizedGlobalValue) :
    isValidQuantizedGlobal global.normalizeResult =
      isValidQuantizedGlobal global := by
  unfold QuantizedGlobalValue.normalizeResult
  split
  · rfl
  · simp_all [isValidQuantizedGlobal, isValidResultState]

theorem QuantizedGlobalValue.hasNormalResult_normalizeResult
    (global : QuantizedGlobalValue) :
    HasNormalResult global.normalizeResult.hasResult
      global.normalizeResult.result := by
  unfold QuantizedGlobalValue.normalizeResult
  split
  · simp_all [HasNormalResult]
  · exact fun _ => rfl

theorem isValidPrecisionGlobal_normalizeResult (world : GameSnapshot) :
    isValidPrecisionGlobal world.normalizeResult =
      isValidPrecisionGlobal world := by
  unfold GameSnapshot.normalizeResult
  split
  · rfl
  · simp_all [isValidPrecisionGlobal, isValidResultState]

theorem GameSnapshot.hasNormalResult_normalizeResult (world : GameSnapshot) :
    HasNormalResult world.normalizeResult.hasResult
      world.normalizeResult.result := by
  unfold GameSnapshot.normalizeResult
  split
  · simp_all [HasNormalResult]
  · exact fun _ => rfl

theorem GameSnapshot.normalizeResult_actors (world : GameSnapshot) :
    world.normalizeResult.actors = world.actors := by
  unfold GameSnapshot.normalizeResult
  split <;> rfl

theorem GameSnapshot.normalizeResult_loot (world : GameSnapshot) :
    world.normalizeResult.loot = world.loot := by
  unfold GameSnapshot.normalizeResult
  split <;> rfl

theorem ValidPrecisionKeyframe.normalizeResult {payload : SnapshotPayload}
    (h : ValidPrecisionKeyframe payload) :
    ValidPrecisionKeyframe { payload with
      fullPrecision := payload.fullPrecision.normalizeResult } := by
  obtain ⟨hg, hac, hlc, ha, hl, hao, hlo⟩ := h
  rw [← GameSnapshot.normalizeResult_actors] at hac ha hao
  rw [← GameSnapshot.normalizeResult_loot] at hlc hl hlo
  exact ⟨(isValidPrecisionGlobal_normalizeResult _).trans hg, hac, hlc, ha, hl,
    hao, hlo⟩

private theorem decode_fullState {payload : SnapshotPayload} {body : Bytes}
    (hheader : isValidHeader payload.header = true)
    (hkind : payload.header.kind = .fullState)
    (henc : payload.header.valueEncoding = .fullPrecision)
    (hdeltas : NoDeltaRecords payload) (hquantized : NoQuantizedBody payload)
    (hbody : writeBody payload = .ok body) :
    readBody { header := payload.header } body = .ok (payload.normalize, []) ∧
      ValidPayload payload.normalize := by
  rw [writeBody, if_pos hkind] at hbody
  rw [SnapshotPayload.normalize, if_pos henc,
    SnapshotPayload.sortAndResetResult, if_pos hkind]
  refine ⟨?_, .fullState hheader hkind henc ⟨hdeltas.1, hdeltas.2, hdeltas.3,
    hdeltas.4, hdeltas.5⟩ ⟨hquantized.1, hquantized.2, hquantized.3⟩⟩
  rw [readBody, if_pos hkind]
  refine bind_eq_ok.mpr ⟨(sortEntities payload.fullPrecision).normalizeResult,
    [], ?_, pure_eq_ok.mpr ⟨?_, rfl⟩⟩
  · rw [readFullState, decodeGameSnapshot_encodeGameSnapshot hbody]
    rfl
  · obtain ⟨h1, h2, h3, h4, h5⟩ := hdeltas
    obtain ⟨h6, h7, h8⟩ := hquantized
    rw [← h1, ← h2, ← h3, ← h4, ← h5, ← h6, ← h7, ← h8]

private theorem decode_precisionKeyframe {payload : SnapshotPayload}
    {body : Bytes} (hheader : isValidHeader payload.header = true)
    (hkind : payload.header.kind = .keyframe)
    (henc : payload.header.valueEncoding = .fullPrecision)
    (hdeltas : NoDeltaRecords payload) (hquantized : NoQuantizedBody payload)
    (hvalid : ValidPrecisionKeyframe payload)
    (hbody : writeBody payload = .ok body) :
    readBody { header := payload.header } body = .ok (payload.normalize, []) ∧
      ValidPayload payload.normalize := by
  have hne : payload.header.kind ≠ .fullState := by rw [hkind]; decide
  rw [writeBody, if_neg hne, if_pos hkind, if_pos henc] at hbody
  have hglobal : payload.global.normalizeResult = payload.global := by
    rw [hquantized.global]; rfl
  rw [SnapshotPayload.normalize, if_pos henc,
    SnapshotPayload.sortAndResetResult, if_neg hne, hglobal]
  have hd : NoDeltaRecords { payload with
      fullPrecision := payload.fullPrecision.normalizeResult } :=
    ⟨hdeltas.1, hdeltas.2, hdeltas.3, hdeltas.4, hdeltas.5⟩
  have hq : NoQuantizedBody { payload with
      fullPrecision := payload.fullPrecision.normalizeResult } :=
    ⟨hquantized.1, hquantized.2, hquantized.3⟩
  have hv := hvalid.normalizeResult
  refine ⟨readBody_precisionKeyframe rfl hkind henc hd hq hv ?_,
    .precisionKeyframe hheader hkind henc hd hq hv⟩
  obtain rfl := Except.ok.inj hbody
  refine (readGameSnapshot_exactOn.eq_ok (hv.representable
    (GameSnapshot.hasNormalResult_normalizeResult _))).mpr ?_
  rw [List.append_nil]
  exact (writeGameSnapshot_normalizeResult _).symm

private theorem decode_quantizedKeyframe {payload : SnapshotPayload}
    {body : Bytes} (hheader : isValidHeader payload.header = true)
    (hkind : payload.header.kind = .keyframe)
    (henc : payload.header.valueEncoding ≠ .fullPrecision)
    (hdeltas : NoDeltaRecords payload) (hvalid : payload.worldFromKeyframe.Valid)
    (hbody : writeBody payload = .ok body) :
    readBody { header := payload.header } body = .ok (payload.normalize, []) ∧
      ValidPayload payload.normalize := by
  have hne : payload.header.kind ≠ .fullState := by rw [hkind]; decide
  rw [writeBody, if_neg hne, if_pos hkind, if_neg henc] at hbody
  rw [SnapshotPayload.normalize, if_neg henc,
    SnapshotPayload.sortAndResetResult, if_neg hne]
  have hv : ({ payload with
      fullPrecision := {}
      global := payload.global.normalizeResult } : SnapshotPayload).worldFromKeyframe.Valid :=
    { hvalid with
      global := (isValidQuantizedGlobal_normalizeResult _).trans hvalid.global }
  have hd : NoDeltaRecords { payload with
      fullPrecision := {}
      global := payload.global.normalizeResult } :=
    ⟨hdeltas.1, hdeltas.2, hdeltas.3, hdeltas.4, hdeltas.5⟩
  refine ⟨readBody_quantizedKeyframe rfl hkind henc hv ?_,
    .quantizedKeyframe hheader hkind henc hd
      (hasDefaultPrecisionBody_default rfl) hv⟩
  obtain rfl := Except.ok.inj hbody
  have hrep : ({ payload with
      fullPrecision := {}
      global := payload.global.normalizeResult } :
        SnapshotPayload).worldFromKeyframe.Representable :=
    ⟨hvalid.actorCount, hvalid.lootCount,
      payload.global.hasNormalResult_normalizeResult⟩
  refine (readQuantizedKeyframe_eq_ok (by rfl) hrep hd rfl).mpr ?_
  simp [writeQuantizedKeyframe, writeQuantizedGlobal_normalizeResult]

private theorem decode_delta {payload : SnapshotPayload} {body : Bytes}
    (hheader : isValidHeader payload.header = true)
    (hfull : payload.header.kind ≠ .fullState)
    (hkey : payload.header.kind ≠ .keyframe) (hglobal : payload.global = {})
    (hvalid : ValidDelta payload) (hbody : writeBody payload = .ok body) :
    readBody { header := payload.header } body = .ok (payload.normalize, []) ∧
      ValidPayload payload.normalize := by
  rw [writeBody, if_neg hfull, if_neg hkey] at hbody
  have henc : payload.header.valueEncoding ≠ .fullPrecision := by
    intro henc
    simp [isValidHeader, hfull, hkey, henc] at hheader
    exact absurd hheader.2.1.1 (by decide)
  have hnorm : payload.global.normalizeResult = {} := by rw [hglobal]; rfl
  rw [SnapshotPayload.normalize, if_neg henc,
    SnapshotPayload.sortAndResetResult, if_neg hfull, hnorm]
  have hv : ValidDelta { payload with fullPrecision := {}, global := {} } :=
    { hvalid with }
  refine ⟨readBody_delta rfl hfull hkey hv ?_, .delta hheader hfull hkey
    (hasDefaultPrecisionBody_default rfl) rfl hv⟩
  obtain rfl := Except.ok.inj hbody
  refine (readDelta_eq_ok (by rfl) hv rfl rfl).mpr ?_
  rw [List.append_nil]
  rfl

/-- Every payload the encoder accepts decodes to its normal form. -/
theorem decodeSnapshotPayload_encodeSnapshotPayload
    {payload : SnapshotPayload} {bytes : Bytes}
    (h : encodeSnapshotPayload payload = .ok bytes) :
    decodeSnapshotPayload bytes = .ok payload.normalize := by
  obtain ⟨hvalid, body, hbody, hlen, rfl⟩ := encodeSnapshotPayload_eq_ok.mp h
  have hheader : isValidHeader payload.header = true := by
    cases hvalid <;> assumption
  have hread : readBody { header := payload.header } body =
        .ok (payload.normalize, []) ∧ ValidPayload payload.normalize := by
    cases hvalid with
    | fullState hh hk he hd hq => exact decode_fullState hh hk he hd hq hbody
    | precisionKeyframe hh hk he hd hq hv =>
      exact decode_precisionKeyframe hh hk he hd hq hv hbody
    | quantizedKeyframe hh hk he hd _ hv =>
      exact decode_quantizedKeyframe hh hk he hd hv hbody
    | delta hh hf hk _ hg hv => exact decode_delta hh hf hk hg hv hbody
  exact decodeSnapshotPayload_eq_ok.mpr
    ⟨hlen, readPayload_eq_ok.mpr ⟨_, body, rfl, hheader, hread.1⟩, hread.2⟩

/-- The two directions of the round trip: every accepted payload decodes to its
normal form, and every decoded keyframe or delta encodes to the bytes it came
from. -/
theorem snapshotPayload_roundTrip :
    (∀ payload bytes, encodeSnapshotPayload payload = .ok bytes →
      decodeSnapshotPayload bytes = .ok payload.normalize) ∧
    ∀ bytes payload, decodeSnapshotPayload bytes = .ok payload →
      payload.header.kind = .keyframe ∨ payload.header.kind = .delta →
      encodeSnapshotPayload payload = .ok bytes := by
  refine ⟨fun _ _ => decodeSnapshotPayload_encodeSnapshotPayload, ?_⟩
  intro bytes payload h hkind
  refine encodeSnapshotPayload_decodeSnapshotPayload h ?_
  rcases hkind with hkind | hkind <;> rw [hkind] <;> decide

/-- A quantized keyframe whose unused safe-zone centre is a negative zero. -/
def negativeZeroKeyframe : SnapshotPayload where
  header := {
    kind := .keyframe, valueEncoding := .quantized, payloadSnapshotId := 1 }
  fullPrecision := { safeZoneCenter := { x := -0 } }

def negativeZeroBytes : Bytes :=
  [2, 2, 0, 0, 0, 0, 1, 0, 0, 0, 1, 1, 0, 0, 0, 0, 0, 0, 0, 0,
    0, 0, 0, 0, 0, 0, 0, 0, 0, 0, 0, 0]

theorem encode_negativeZeroKeyframe :
    encodeSnapshotPayload negativeZeroKeyframe = .ok negativeZeroBytes := by
  decide +kernel

/-- The encoder accepts the negative zero and the decoder returns a positive
one, so sorting and resetting results is not all the codec normalises. -/
theorem negativeZeroKeyframe_not_restored :
    ∃ bytes, encodeSnapshotPayload negativeZeroKeyframe = .ok bytes ∧
      decodeSnapshotPayload bytes ≠
        .ok negativeZeroKeyframe.sortAndResetResult := by
  refine ⟨negativeZeroBytes, encode_negativeZeroKeyframe, ?_⟩
  rw [decodeSnapshotPayload_encodeSnapshotPayload encode_negativeZeroKeyframe]
  decide +kernel

theorem snapshotPayload_roundTrip_negativeZero :
    decodeSnapshotPayload negativeZeroBytes =
        .ok negativeZeroKeyframe.normalize ∧
      encodeSnapshotPayload negativeZeroKeyframe.normalize =
        .ok negativeZeroBytes := by
  have hdecode := snapshotPayload_roundTrip.1 _ _ encode_negativeZeroKeyframe
  exact ⟨hdecode, snapshotPayload_roundTrip.2 _ _ hdecode (Or.inl rfl)⟩

end SurvivalArena
