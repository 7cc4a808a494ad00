import SurvivalArena.Protocol.ReplicationRoundTrip
import SurvivalArena.Replication.SnapshotDelta

/-!
# Applying a delta undoes building it

The records of a delta are the difference of two ascending lists; the client's
erasing, inserting and changing restores the second list from the first.  The
built delta passes the encoder's validation, so it also survives the wire.
-/

namespace SurvivalArena

open Wire KeyedList

def QuantizedWorld.normalizeResult (world : QuantizedWorld) : QuantizedWorld :=
  { world with global := world.global.normalizeResult }

theorem QuantizedWorld.normalizeResult_normalizeResult (world : QuantizedWorld) :
    world.normalizeResult.normalizeResult = world.normalizeResult := by
  unfold QuantizedWorld.normalizeResult QuantizedGlobalValue.normalizeResult
  cases hresult : world.global.hasResult <;> simp [hresult]

/-- The entities present in both worlds agree in what a delta cannot carry. -/
structure SameImmutables (base current : QuantizedWorld) : Prop where
  actors : ∀ b ∈ base.actors, ∀ c ∈ current.actors, b.id = c.id →
    b.role = c.role ∧ b.neutralArchetype = c.neutralArchetype
  loot : ∀ b ∈ base.loot, ∀ c ∈ current.loot, b.id = c.id →
    b.type = c.type ∧ b.position = c.position

/-! ## Records -/

/-- A field that is carried when it changed ends as the current one. -/
private theorem carried_eq {α : Type} {changed : Bool} {base current default : α}
    (h : changed = false → base = current) :
    (if changed then (if changed then current else default) else base) =
      current := by
  cases changed with
  | false => exact h rfl
  | true => rfl

private theorem healthAliveChanged_eq_false {base current : QuantizedActorValue}
    (h : healthAliveChanged base current = false) :
    base.health = current.health ∧ base.alive = current.alive := by
  simpa [healthAliveChanged] using h

private theorem weaponCooldownChanged_eq_false
    {base current : QuantizedActorValue}
    (h : weaponCooldownChanged base current = false) :
    base.weapon = current.weapon ∧
      base.cooldownTicksRemaining = current.cooldownTicksRemaining := by
  simpa [weaponCooldownChanged] using h

private theorem safeZoneChanged_eq_false {base current : QuantizedGlobalValue}
    (h : safeZoneChanged base current = false) :
    base.safeZoneStage = current.safeZoneStage ∧
      base.safeZoneCenter = current.safeZoneCenter ∧
      base.safeZoneRadius = current.safeZoneRadius := by
  simpa [safeZoneChanged, and_assoc] using h

theorem changeActor_actorChanges {base current : QuantizedActorValue}
    (hid : base.id = current.id) (hrole : base.role = current.role)
    (harchetype : base.neutralArchetype = current.neutralArchetype) :
    changeActor (actorChanges base current) base = current := by
  obtain ⟨-, hp, hh, hw, he⟩ := actorChanges_fields base current
  simp only [changeActor, hp, hh, hw, he]
  have hposition : (base.position != current.position) = false →
      base.position = current.position := by simp
  have hhealth := @healthAliveChanged_eq_false base current
  have hweapon := @weaponCooldownChanged_eq_false base current
  have heliminations : (base.eliminations != current.eliminations) = false →
      base.eliminations = current.eliminations := by simp
  simp only [actorChanges]
  rw [carried_eq hposition, carried_eq fun h => (hhealth h).1,
    carried_eq fun h => (hhealth h).2, carried_eq fun h => (hweapon h).1,
    carried_eq fun h => (hweapon h).2, carried_eq heliminations, hid, hrole,
    harchetype]

/-- An actor without a change is the base's actor. -/
theorem eq_of_actorChanges_none {base current : QuantizedActorValue}
    (hid : base.id = current.id) (hrole : base.role = current.role)
    (harchetype : base.neutralArchetype = current.neutralArchetype)
    (hnone : (actorChanges base current).fields = .none) : base = current := by
  have hchange := changeActor_actorChanges hid hrole harchetype
  rw [changeActor, hnone] at hchange
  exact hchange

/-- The results of two globals that agree up to an absent one. -/
private theorem normalizeResult_inj {left right : QuantizedGlobalValue}
    (h : left.normalizeResult = right.normalizeResult) :
    left.phase = right.phase ∧ left.safeZoneStage = right.safeZoneStage ∧
      left.safeZoneCenter = right.safeZoneCenter ∧
      left.safeZoneRadius = right.safeZoneRadius ∧
      left.aliveContenders = right.aliveContenders ∧
      left.hasResult = right.hasResult ∧
      (left.hasResult = true → left.result = right.result) ∧
      left.eventChecksum = right.eventChecksum := by
  unfold QuantizedGlobalValue.normalizeResult at h
  cases left
  cases right
  grind

/-- Two globals agree up to an absent result when their fields do. -/
private theorem normalizeResult_eq {left right : QuantizedGlobalValue}
    (hphase : left.phase = right.phase)
    (hstage : left.safeZoneStage = right.safeZoneStage)
    (hcenter : left.safeZoneCenter = right.safeZoneCenter)
    (hradius : left.safeZoneRadius = right.safeZoneRadius)
    (halive : left.aliveContenders = right.aliveContenders)
    (hhas : left.hasResult = right.hasResult)
    (hresult : left.hasResult = true → left.result = right.result)
    (hchecksum : left.eventChecksum = right.eventChecksum) :
    left.normalizeResult = right.normalizeResult := by
  unfold QuantizedGlobalValue.normalizeResult
  cases left
  cases right
  grind

/-- The delta between two globals, applied to a base that agrees with the first
up to an absent result. -/
theorem applyGlobalDelta_buildGlobalDelta {base stored : QuantizedGlobalValue}
    (current : QuantizedGlobalValue)
    (h : stored.normalizeResult = base.normalizeResult) :
    (applyGlobalDelta stored (buildGlobalDelta base current)).normalizeResult =
      current.normalizeResult := by
  obtain ⟨ephase, estage, ecenter, eradius, ealive, ehas, eresult, echecksum⟩ :=
    normalizeResult_inj h
  obtain ⟨-, hp, hs, ha, hr, hc⟩ := buildGlobalDelta_fields base current
  simp only [applyGlobalDelta, hp, hs, ha, hr, hc]
  have hhas : resultChanged base current = false →
      base.hasResult = current.hasResult ∧
        (current.hasResult = true → base.result = current.result) := by
    simp [resultChanged]
  have hzone := @safeZoneChanged_eq_false base current
  apply normalizeResult_eq
  · exact carried_eq fun hn => ephase.trans (by simpa using hn)
  · exact carried_eq fun hn => estage.trans (hzone hn).1
  · exact carried_eq fun hn => ecenter.trans (hzone hn).2.1
  · exact carried_eq fun hn => eradius.trans (hzone hn).2.2
  · exact carried_eq fun hn => ealive.trans (by simpa using hn)
  · exact carried_eq fun hn => ehas.trans (hhas hn).1
  · cases hchanged : resultChanged base current with
    | false =>
      intro hstored
      obtain ⟨hsame, hres⟩ := hhas hchanged
      exact (eresult hstored).trans (hres (by rw [← hsame, ← ehas]; exact hstored))
    | true =>
      intro hcurrent
      simp only [buildGlobalDelta, hchanged, if_true] at hcurrent ⊢
      simp [hcurrent]
  · exact carried_eq fun hn => echecksum.trans (by simpa using hn)

/-! ## Lists -/

theorem buildActorDelta_eq_ok {base current : QuantizedActorValue}
    {change : Option QuantizedActorDelta} :
    buildActorDelta base current = .ok change ↔
      base.role = current.role ∧
      base.neutralArchetype = current.neutralArchetype ∧
      change = if (actorChanges base current).fields = .none then none
        else some (actorChanges base current) := by
  unfold buildActorDelta
  by_cases hrole : base.role = current.role
  · by_cases harchetype : base.neutralArchetype = current.neutralArchetype
    · rw [if_neg (by simp [hrole, harchetype])]
      split_ifs <;> simp [hrole, harchetype, eq_comm]
    · simp [harchetype]
  · simp [hrole]

theorem buildLootDelta_eq_ok {base current : QuantizedLootValue}
    {change : Option QuantizedLootDelta} :
    buildLootDelta base current = .ok change ↔
      base.type = current.type ∧ base.position = current.position ∧
      change = if base.active = current.active then none
        else some ⟨current.id, .active, current.active⟩ := by
  unfold buildLootDelta
  by_cases htype : base.type = current.type
  · by_cases hposition : base.position = current.position
    · rw [if_neg (by simp [htype, hposition])]
      split_ifs <;> simp [htype, hposition, eq_comm]
    · simp [hposition]
  · simp [htype]

private theorem actorDelta_none {base current : QuantizedActorValue}
    (hid : base.id = current.id)
    (h : buildActorDelta base current = .ok none) : base = current := by
  obtain ⟨hrole, harchetype, hchange⟩ := buildActorDelta_eq_ok.mp h
  refine eq_of_actorChanges_none hid hrole harchetype ?_
  by_contra hne
  simp [hne] at hchange

theorem actorDelta_some {base current : QuantizedActorValue}
    {change : QuantizedActorDelta}
    (h : buildActorDelta base current = .ok (some change)) :
    change = actorChanges base current ∧ change.fields ≠ .none ∧
      (base.id = current.id → changeActor change base = current) := by
  obtain ⟨hrole, harchetype, hchange⟩ := buildActorDelta_eq_ok.mp h
  split_ifs at hchange with hnone
  obtain rfl := Option.some.inj hchange
  exact ⟨rfl, hnone, fun hid => changeActor_actorChanges hid hrole harchetype⟩

private theorem lootDelta_none {base current : QuantizedLootValue}
    (hid : base.id = current.id)
    (h : buildLootDelta base current = .ok none) : base = current := by
  obtain ⟨htype, hposition, hchange⟩ := buildLootDelta_eq_ok.mp h
  split_ifs at hchange with hsame
  cases base
  cases current
  simp_all

theorem lootDelta_some {base current : QuantizedLootValue}
    {change : QuantizedLootDelta}
    (h : buildLootDelta base current = .ok (some change)) :
    change = ⟨current.id, .active, current.active⟩ ∧
      (base.id = current.id → changeLootValue change base = current) := by
  obtain ⟨htype, hposition, hchange⟩ := buildLootDelta_eq_ok.mp h
  split_ifs at hchange with hsame
  obtain rfl := Option.some.inj hchange
  refine ⟨rfl, fun hid => ?_⟩
  cases base
  cases current
  simp_all [changeLootValue]

theorem actorDelta_id {base current : QuantizedActorValue}
    {change : QuantizedActorDelta}
    (h : buildActorDelta base current = .ok (some change)) :
    change.id = current.id := by
  rw [(actorDelta_some h).1]
  rfl

theorem lootDelta_id {base current : QuantizedLootValue}
    {change : QuantizedLootDelta}
    (h : buildLootDelta base current = .ok (some change)) :
    change.id = current.id := by
  rw [(lootDelta_some h).1]

/-- The payload a pair of entity differences makes. -/
theorem buildDeltaPayload_eq_ok {baseSnapshotId snapshotId : UInt32}
    {base current : QuantizedWorld} {payload : SnapshotPayload} :
    buildDeltaPayload baseSnapshotId snapshotId base current = .ok payload ↔
      ∃ actors loot,
        diff QuantizedActorValue.id buildActorDelta base.actors
          current.actors = .ok actors ∧
        diff QuantizedLootValue.id buildLootDelta base.loot
          current.loot = .ok loot ∧
        payload = {
          header := {
            kind := .delta
            valueEncoding := .quantized
            baseSnapshotId
            payloadSnapshotId := snapshotId }
          globalDelta := buildGlobalDelta base.global current.global
          actorValues := actors.entered
          actorDeltas := actors.changed
          removedActors := actors.removed
          lootValues := loot.entered
          lootDeltas := loot.changed
          removedLoot := loot.removed } := by
  simp only [buildDeltaPayload, except_bind_eq_ok]
  constructor
  · rintro ⟨actors, ha, loot, hl, h⟩
    exact ⟨actors, loot, ha, hl, (Except.ok.inj h).symm⟩
  · rintro ⟨actors, loot, ha, hl, rfl⟩
    exact ⟨actors, ha, loot, hl, rfl⟩

/-- A delta has nothing to normalise. -/
theorem normalize_of_delta {payload : SnapshotPayload}
    (hkind : payload.header.kind = .delta)
    (hencoding : payload.header.valueEncoding = .quantized)
    (hprecision : payload.fullPrecision = {}) (hglobal : payload.global = {}) :
    payload.normalize = payload := by
  have hfull : payload.header.kind ≠ .fullState := by rw [hkind]; decide
  have henc : payload.header.valueEncoding ≠ .fullPrecision := by
    rw [hencoding]
    decide
  have hnormal : payload.global.normalizeResult = payload.global := by
    rw [hglobal]
    rfl
  rw [SnapshotPayload.normalize, if_neg henc,
    SnapshotPayload.sortAndResetResult, if_neg hfull, hnormal, ← hprecision]

theorem normalize_buildDeltaPayload {baseSnapshotId snapshotId : UInt32}
    {base current : QuantizedWorld} {payload : SnapshotPayload}
    (h : buildDeltaPayload baseSnapshotId snapshotId base current =
      .ok payload) : payload.normalize = payload := by
  obtain ⟨actors, loot, -, -, rfl⟩ := buildDeltaPayload_eq_ok.mp h
  exact normalize_of_delta rfl rfl rfl rfl

/-- The server can express the change when no immutable field differs. -/
theorem buildDeltaPayload_exists (baseSnapshotId snapshotId : UInt32)
    {base current : QuantizedWorld} (h : SameImmutables base current) :
    ∃ payload,
      buildDeltaPayload baseSnapshotId snapshotId base current =
        .ok payload := by
  have hactors : ∀ b ∈ base.actors, ∀ c ∈ current.actors, b.id = c.id →
      ∃ change, buildActorDelta b c = .ok change := by
    intro b hb c hc hid
    obtain ⟨hrole, harchetype⟩ := h.actors b hb c hc hid
    exact ⟨_, buildActorDelta_eq_ok.mpr ⟨hrole, harchetype, rfl⟩⟩
  have hloot : ∀ b ∈ base.loot, ∀ c ∈ current.loot, b.id = c.id →
      ∃ change, buildLootDelta b c = .ok change := by
    intro b hb c hc hid
    obtain ⟨htype, hposition⟩ := h.loot b hb c hc hid
    exact ⟨_, buildLootDelta_eq_ok.mpr ⟨htype, hposition, rfl⟩⟩
  obtain ⟨actors, ha⟩ := diff_exists hactors
  obtain ⟨loot, hl⟩ := diff_exists hloot
  exact ⟨_, buildDeltaPayload_eq_ok.mpr ⟨actors, loot, ha, hl, rfl⟩⟩

/-- The client's update inverts the server's difference, from any base that
agrees with the server's up to an absent result. -/
theorem applyDelta_buildDeltaPayload {baseSnapshotId snapshotId : UInt32}
    {base current stored : QuantizedWorld} {payload : SnapshotPayload}
    (hb : base.Sorted) (hc : current.Sorted)
    (hstored : stored.normalizeResult = base.normalizeResult)
    (h : buildDeltaPayload baseSnapshotId snapshotId base current =
      .ok payload) :
    ∃ applied, applyDelta stored payload = .ok applied ∧
      applied.normalizeResult = current.normalizeResult := by
  obtain ⟨actors, loot, ha, hl, rfl⟩ := buildDeltaPayload_eq_ok.mp h
  obtain ⟨hglobal, hactors, hloot⟩ : stored.global.normalizeResult =
      base.global.normalizeResult ∧ stored.actors = base.actors ∧
        stored.loot = base.loot := by
    simpa [QuantizedWorld.normalizeResult] using hstored
  have happlyActors := apply_diff hb.actors hc.actors changeActor_id
    (fun b c hid hn => actorDelta_none hid hn)
    (fun b c x hx => actorDelta_id hx)
    (fun b c x hid hx => (actorDelta_some hx).2.2 hid) ha
  have happlyLoot := apply_diff hb.loot hc.loot changeLootValue_id
    (fun b c hid hn => lootDelta_none hid hn)
    (fun b c x hx => lootDelta_id hx)
    (fun b c x hid hx => (lootDelta_some hx).2 hid) hl
  rw [← hactors] at happlyActors
  rw [← hloot] at happlyLoot
  have hnormal := applyGlobalDelta_buildGlobalDelta current.global hglobal
  generalize hdelta : applyGlobalDelta stored.global
    (buildGlobalDelta base.global current.global) = global at hnormal
  refine ⟨⟨global, current.actors, current.loot⟩,
    applyDelta_eq_ok.mpr ⟨hdelta.symm, happlyActors, happlyLoot⟩, ?_⟩
  rw [QuantizedWorld.normalizeResult, hnormal]
  rfl

end SurvivalArena
