import SurvivalArena.Replication.DeltaInverse

/-!
# Encoding a built delta

The delta between two valid views passes the encoder's validation and its size
limit, and decoding gives it back unchanged.
-/

namespace SurvivalArena

open Wire KeyedList

/-! ## Size -/

theorem writeQuantizedActor_length (actor : QuantizedActorValue) :
    (writeQuantizedActor actor).length = 16 := by
  simp [writeQuantizedActor, writeQuantizedVec2]

theorem writeQuantizedLoot_length (loot : QuantizedLootValue) :
    (writeQuantizedLoot loot).length = 10 := by
  simp [writeQuantizedLoot, writeQuantizedVec2]

theorem writeField_length_le {size : Nat} (present : Bool) {bytes : Bytes}
    (h : bytes.length ≤ size) : (writeField present bytes).length ≤ size := by
  cases present with
  | false => simp [writeField]
  | true => exact h

theorem writeActorDelta_length_le (actor : QuantizedActorDelta) :
    (writeActorDelta actor).length ≤ 15 := by
  have hposition := writeField_length_le (actor.fields.has .position)
    (show (writeQuantizedVec2 actor.position).length ≤ 4 by
      simp [writeQuantizedVec2])
  have hhealth := writeField_length_le (actor.fields.has .healthAlive)
    (show (writeU8 actor.health ++ writeBool actor.alive).length ≤ 2 by simp)
  have hweapon := writeField_length_le (actor.fields.has .weaponCooldown)
    (show (writeU8 actor.weapon.value ++
      writeU16 actor.cooldownTicksRemaining).length ≤ 3 by simp)
  have heliminations := writeField_length_le (actor.fields.has .eliminations)
    (writeU8_length actor.eliminations).le
  simp only [writeActorDelta, List.length_append, writeU8_length,
    writeU32_length]
  omega

theorem writeLootDelta_length (loot : QuantizedLootDelta) :
    (writeLootDelta loot).length = 6 := by
  simp [writeLootDelta]

theorem writeGlobalDelta_length_le (global : QuantizedGlobalDelta) :
    (writeGlobalDelta global).length ≤ 28 := by
  have hphase := writeField_length_le (global.fields.has .phase)
    (writeU8_length global.phase.value).le
  have hzone := writeField_length_le (global.fields.has .safeZone)
    (show (writeU8 global.safeZoneStage.value ++
      writeQuantizedVec2 global.safeZoneCenter ++
        writeU16 global.safeZoneRadius).length ≤ 7 by
      simp [writeQuantizedVec2])
  have halive := writeField_length_le (global.fields.has .aliveContenders)
    (writeU8_length global.aliveContenders).le
  have hresult := writeField_length_le (global.fields.has .result)
    (show (writeBool global.hasResult ++
      if global.hasResult then writeResult global.result else []).length ≤
        10 by cases global.hasResult <;> simp [writeResult])
  have hchecksum := writeField_length_le (global.fields.has .eventChecksum)
    (writeU64_length global.eventChecksum).le
  simp only [writeGlobalDelta, List.length_append, writeU8_length]
  omega

/-- A delta within the record limits is far below the payload limit. -/
theorem writeDelta_length_le {payload : SnapshotPayload}
    (hactors : actorRecordCount payload ≤ maxSnapshotActors)
    (hloot : lootRecordCount payload ≤ maxSnapshotLoot) :
    (writeDelta payload).length ≤ 2624 := by
  have hglobal := writeGlobalDelta_length_le payload.globalDelta
  have hactorValues := writeVector_length_le
    (fun actor => (writeQuantizedActor_length actor).le) payload.actorValues
  have hactorDeltas := writeVector_length_le writeActorDelta_length_le
    payload.actorDeltas
  have hremovedActors := writeVector_length_le
    (fun actor : EntityId => (writeU32_length actor.value).le)
    payload.removedActors
  have hlootValues := writeVector_length_le
    (fun loot => (writeQuantizedLoot_length loot).le) payload.lootValues
  have hlootDeltas := writeVector_length_le
    (fun loot => (writeLootDelta_length loot).le) payload.lootDeltas
  have hremovedLoot := writeVector_length_le
    (fun loot => (writeU32_length loot).le) payload.removedLoot
  simp only [actorRecordCount, lootRecordCount, maxSnapshotActors,
    maxSnapshotLoot] at hactors hloot
  simp only [writeDelta, List.length_append]
  omega

/-! ## Validity -/

/-- A group outside the mask has its defaults. -/
private theorem default_of_unchanged {changed : Bool} {test : Bool}
    (h : changed = false → test = true) : (changed || test) = true := by
  cases changed with
  | false => exact h rfl
  | true => rfl

/-- A group in the mask has the current values. -/
private theorem valid_of_changed {changed : Bool} {test : Bool}
    (h : changed = true → test = true) : (!changed || test) = true := by
  cases changed with
  | false => rfl
  | true => exact h rfl

private theorem hasGlobalDefaults_buildGlobalDelta
    (base current : QuantizedGlobalValue) :
    hasGlobalDefaults (buildGlobalDelta base current) = true := by
  obtain ⟨-, hp, hs, ha, hr, hc⟩ := buildGlobalDelta_fields base current
  simp only [hasGlobalDefaults, hp, hs, ha, hr, hc, Bool.and_eq_true]
  simp only [buildGlobalDelta]
  refine ⟨⟨⟨⟨?_, ?_⟩, ?_⟩, ?_⟩, ?_⟩ <;>
    exact default_of_unchanged fun h => by simp [h]

theorem isValidDeltaResult_buildGlobalDelta
    {base current : QuantizedGlobalValue}
    (h : isValidQuantizedGlobal current = true) :
    isValidDeltaResult (buildGlobalDelta base current) = true := by
  obtain ⟨-, hp, -, ha, hr, -⟩ := buildGlobalDelta_fields base current
  simp only [isValidQuantizedGlobal, isValidResultState, Bool.and_eq_true,
    beq_iff_eq] at h
  obtain ⟨-, hphase, hresult⟩ := h
  rw [isValidDeltaResult, hp, ha, hr]
  refine valid_of_changed fun hchanged => ?_
  simp only [buildGlobalDelta, hchanged, if_true, Bool.true_and,
    Bool.and_eq_true]
  refine ⟨⟨⟨?_, ?_⟩, ?_⟩, ?_⟩
  · cases hhas : current.hasResult with
    | false => rfl
    | true => simp_all
  · cases hhas : current.hasResult with
    | false => rfl
    | true => rfl
  · refine valid_of_changed fun hne => ?_
    rw [if_pos hne, hphase]
    simp
  · cases hhas : current.hasResult with
    | false => rfl
    | true =>
      obtain ⟨halive, -⟩ : current.aliveContenders.toUInt32 = 1 ∧ _ := by
        simpa [hhas] using hresult
      have hone : current.aliveContenders = 1 :=
        UInt8.toNat_inj.mp (by simpa using congrArg UInt32.toNat halive)
      refine valid_of_changed fun hne => ?_
      rw [if_pos hne, hone]
      rfl

theorem isValidQuantizedGlobalDelta_buildGlobalDelta
    {base current : QuantizedGlobalValue}
    (h : isValidQuantizedGlobal current = true) :
    isValidQuantizedGlobalDelta (buildGlobalDelta base current) = true := by
  obtain ⟨hmask, hp, hs, ha, -, -⟩ := buildGlobalDelta_fields base current
  have hresult := @isValidDeltaResult_buildGlobalDelta base _ h
  simp only [isValidQuantizedGlobal, Bool.and_eq_true] at h
  obtain ⟨⟨⟨hphase, hstage⟩, halive⟩, -⟩ := h
  rw [isValidQuantizedGlobalDelta, hmask, hp, hs, ha, hresult,
    hasGlobalDefaults_buildGlobalDelta]
  simp only [Bool.true_and, Bool.and_true, Bool.and_eq_true]
  refine ⟨⟨?_, ?_⟩, ?_⟩
  · exact valid_of_changed fun h => by simpa [buildGlobalDelta, h] using hphase
  · exact valid_of_changed fun h => by simpa [buildGlobalDelta, h] using hstage
  · exact valid_of_changed fun h => by simpa [buildGlobalDelta, h] using halive

theorem isValidQuantizedActorDelta_actorChanges
    {base current : QuantizedActorValue}
    (h : isValidQuantizedActor current = true)
    (hsome : (actorChanges base current).fields ≠ .none) :
    isValidQuantizedActorDelta (actorChanges base current) = true := by
  obtain ⟨hmask, hp, hh, hw, he⟩ := actorChanges_fields base current
  simp only [isValidQuantizedActor, Bool.and_eq_true] at h
  obtain ⟨⟨⟨-, hweapon⟩, hhealth⟩, halive⟩ := h
  simp only [isValidQuantizedActorDelta, hasActorDefaults, hmask, hp, hh, hw,
    he, bne_iff_ne.mpr hsome, Bool.true_and, Bool.and_eq_true]
  simp only [actorChanges]
  refine ⟨⟨⟨⟨⟨?_, ?_⟩, ?_⟩, ?_⟩, ?_⟩, ?_⟩
  · exact default_of_unchanged fun h => by simp [h]
  · exact default_of_unchanged fun h => by simp [h]
  · exact default_of_unchanged fun h => by simp [h]
  · exact default_of_unchanged fun h => by simp [h]
  · exact valid_of_changed fun h => by simp [h, hhealth, halive]
  · exact valid_of_changed fun h => by simpa [h] using hweapon

/-- The ids of a world's actors. -/
def QuantizedWorld.actorIds (world : QuantizedWorld) : Finset EntityId :=
  (world.actors.map QuantizedActorValue.id).toFinset

/-- The ids of a world's loot. -/
def QuantizedWorld.lootIds (world : QuantizedWorld) : Finset UInt32 :=
  (world.loot.map QuantizedLootValue.id).toFinset

theorem validDelta_buildDeltaPayload {baseSnapshotId snapshotId : UInt32}
    {base current : QuantizedWorld} {payload : SnapshotPayload}
    (hb : base.Valid) (hc : current.Valid)
    (hactors : (base.actorIds ∪ current.actorIds).card ≤ maxSnapshotActors)
    (hloot : (base.lootIds ∪ current.lootIds).card ≤ maxSnapshotLoot)
    (h : buildDeltaPayload baseSnapshotId snapshotId base current =
      .ok payload) : ValidDelta payload := by
  obtain ⟨actors, loot, ha, hl, rfl⟩ := buildDeltaPayload_eq_ok.mp h
  have hactorId := fun b c x => @actorDelta_id b c x
  have hlootId := fun b c x => @lootDelta_id b c x
  have hda := diff_isDiff hb.actorOrder hc.actorOrder ha
  have hdl := diff_isDiff hb.lootOrder hc.lootOrder hl
  obtain ⟨hra, hea, hca⟩ := diff_sublists hactorId ha
  obtain ⟨hrl, hel, hcl⟩ := diff_sublists hlootId hl
  have hba' : Ascending id (base.actors.map QuantizedActorValue.id) :=
    ascending_keys.mpr hb.actorOrder
  have hca' : Ascending id (current.actors.map QuantizedActorValue.id) :=
    ascending_keys.mpr hc.actorOrder
  have hbl' : Ascending id (base.loot.map QuantizedLootValue.id) :=
    ascending_keys.mpr hb.lootOrder
  have hcl' : Ascending id (current.loot.map QuantizedLootValue.id) :=
    ascending_keys.mpr hc.lootOrder
  have hchanges : ∀ change ∈ actors.changed,
      isValidQuantizedActorDelta change = true := by
    intro change hmem
    obtain ⟨b, -, c, hmemc, -, hdelta⟩ := (hda.changed change).mp hmem
    obtain ⟨rfl, hsome, -⟩ := actorDelta_some hdelta
    exact isValidQuantizedActorDelta_actorChanges (hc.actors c hmemc) hsome
  have hflags : ∀ change ∈ loot.changed, change.fields = .active := by
    intro change hmem
    obtain ⟨b, -, c, -, -, hdelta⟩ := (hdl.changed change).mp hmem
    rw [(lootDelta_some hdelta).1]
  exact {
    actorCount := (diff_length_le hb.actorOrder hc.actorOrder hactorId ha).trans
      hactors
    lootCount := (diff_length_le hb.lootOrder hc.lootOrder hlootId hl).trans
      hloot
    global := isValidQuantizedGlobalDelta_buildGlobalDelta hc.global
    actorValues := fun actor hmem =>
      hc.actors actor ((hda.entered actor).mp hmem).1
    actorDeltas := hchanges
    lootValues := fun value hmem => hc.loot value ((hdl.entered value).mp hmem).1
    lootDeltas := hflags
    actorValueOrder := hc.actorOrder.sublist hea
    actorDeltaOrder := ascending_keys.mp (hca'.sublist hca)
    removedActorOrder := hba'.sublist hra
    lootValueOrder := hc.lootOrder.sublist hel
    lootDeltaOrder := ascending_keys.mp (hcl'.sublist hcl)
    removedLootOrder := hbl'.sublist hrl
    actorNodup := by
      have hnd := (diff_nodup hb.actorOrder hc.actorOrder hactorId ha).map
        Tagged.value_injective
      simpa [actorRecordIds, Function.comp_def] using hnd
    lootNodup := diff_nodup hb.lootOrder hc.lootOrder hlootId hl }

/-- A valid quantized delta encodes, and decodes to itself. -/
theorem encode_validDelta {payload : SnapshotPayload}
    (hheader : isValidHeader payload.header = true)
    (hkind : payload.header.kind = .delta)
    (hencoding : payload.header.valueEncoding = .quantized)
    (hprecision : payload.fullPrecision = {}) (hglobal : payload.global = {})
    (hvalid : ValidDelta payload) :
    ∃ bytes, encodeSnapshotPayload payload = .ok bytes ∧
      decodeSnapshotPayload bytes = .ok payload := by
  have hfull : payload.header.kind ≠ .fullState := by rw [hkind]; decide
  have hkey : payload.header.kind ≠ .keyframe := by rw [hkind]; decide
  have hencode : encodeSnapshotPayload payload =
      .ok (writeHeader payload.header ++ writeDelta payload) := by
    refine encodeSnapshotPayload_eq_ok.mpr ⟨.delta hheader hfull hkey
      (hasDefaultPrecisionBody_default hprecision) hglobal hvalid,
      writeDelta payload, by rw [writeBody, if_neg hfull, if_neg hkey], ?_, rfl⟩
    have hbody := writeDelta_length_le hvalid.actorCount hvalid.lootCount
    simp only [writeHeader, List.length_append, writeU8_length,
      writeU32_length, maxSnapshotPayloadBytes]
    omega
  refine ⟨_, hencode, ?_⟩
  rw [decodeSnapshotPayload_encodeSnapshotPayload hencode,
    normalize_of_delta hkind hencoding hprecision hglobal]

/-- The client's update inverts the server's difference, and between valid views
of few enough entities the delta travels unchanged. -/
theorem buildDeltaPayload_inverted (baseSnapshotId snapshotId : UInt32)
    (base current : QuantizedWorld) (hb : base.Sorted) (hc : current.Sorted)
    (hsame : SameImmutables base current) :
    ∃ payload,
      buildDeltaPayload baseSnapshotId snapshotId base current =
        .ok payload ∧
      (∃ applied, applyDelta base payload = .ok applied ∧
        applied.normalizeResult = current.normalizeResult) ∧
      (base.Valid → current.Valid →
        (base.actorIds ∪ current.actorIds).card ≤ maxSnapshotActors →
        (base.lootIds ∪ current.lootIds).card ≤ maxSnapshotLoot →
        0 < baseSnapshotId → baseSnapshotId < snapshotId →
        ∃ bytes, encodeSnapshotPayload payload = .ok bytes ∧
          decodeSnapshotPayload bytes = .ok payload) := by
  obtain ⟨payload, hpayload⟩ :=
    buildDeltaPayload_exists baseSnapshotId snapshotId hsame
  refine ⟨payload, hpayload,
    applyDelta_buildDeltaPayload hb hc rfl hpayload, ?_⟩
  intro hbv hcv hactors hloot hpositive hincreasing
  have hvalid := validDelta_buildDeltaPayload hbv hcv hactors hloot hpayload
  obtain ⟨actors, loot, -, -, rfl⟩ := buildDeltaPayload_eq_ok.mp hpayload
  refine encode_validDelta ?_ rfl rfl rfl rfl hvalid
  have hne : snapshotId ≠ 0 := (hpositive.trans hincreasing).ne'
  simp [isValidHeader, isValidPayloadKind, isValidValueEncoding, hne, hpositive,
    hincreasing, SnapshotPayloadKind.delta, SnapshotPayloadKind.fullState,
    SnapshotPayloadKind.keyframe]

/-- Two views of one piece of loot that differ in its type. -/
def rifleView : QuantizedWorld where
  loot := [{ id := 1, type := .rifle }]

def medKitView : QuantizedWorld where
  loot := [{ id := 1, type := .medKit }]

/-- Agreement in the actors' immutable fields is not enough: the server refuses
to express a change of a loot type. -/
theorem lootType_not_expressible :
    ¬∀ base current : QuantizedWorld, base.Sorted → current.Sorted →
      (∀ b ∈ base.actors, ∀ c ∈ current.actors, b.id = c.id →
        b.role = c.role ∧ b.neutralArchetype = c.neutralArchetype) →
      ∃ payload applied, buildDeltaPayload 1 2 base current = .ok payload ∧
        applyDelta base payload = .ok applied ∧
        applied.normalizeResult = current.normalizeResult := by
  intro h
  obtain ⟨payload, -, hbuild, -⟩ := h rifleView medKitView
    ⟨by decide, by decide⟩ ⟨by decide, by decide⟩ (by decide)
  have herror : buildDeltaPayload 1 2 rifleView medKitView =
      .error (.logicError "loot immutable replication field changed") := by
    decide +kernel
  rw [herror] at hbuild
  cases hbuild

/-- A view with one actor, before and after it was hit and took the rifle. -/
def actorView (health : UInt8) (weapon : NetworkWeaponType)
    (loot : Bool) : QuantizedWorld where
  global := { phase := .running, aliveContenders := 1 }
  actors := [{ id := ⟨7⟩, health, weapon }]
  loot := [{ id := 1, active := loot }]

theorem buildDeltaPayload_inverted_actorView :
    ∃ payload,
      buildDeltaPayload 3 5 (actorView 100 .blade true)
          (actorView 80 .rifle false) = .ok payload ∧
      (∃ applied,
        applyDelta (actorView 100 .blade true) payload = .ok applied ∧
        applied.normalizeResult =
          (actorView 80 .rifle false).normalizeResult) ∧
      ∃ bytes, encodeSnapshotPayload payload = .ok bytes ∧
        decodeSnapshotPayload bytes = .ok payload := by
  obtain ⟨payload, hbuild, happly, hencode⟩ :=
    buildDeltaPayload_inverted 3 5 (actorView 100 .blade true)
      (actorView 80 .rifle false) ⟨by decide, by decide⟩
      ⟨by decide, by decide⟩ ⟨by decide, by decide⟩
  refine ⟨payload, hbuild, happly, hencode ?_ ?_ (by decide) (by decide)
    (by decide) (by decide)⟩
  · constructor <;> decide
  · constructor <;> decide

end SurvivalArena
