import SurvivalArena.Protocol.ReplicationSnapshotCodec

/-!
# Valid payloads

What the encoder's validation establishes about each payload kind, as one
structure for each kind of body.
-/

namespace SurvivalArena

open Wire KeyedList

theorem checkCanonicalOrder_eq_canonical {α κ : Type} [LinearOrder κ]
    {key : α → κ} {values : List α} :
    checkCanonicalOrder key values = .canonical ↔ Ascending key values := by
  induction values with
  | nil => simp [checkCanonicalOrder]
  | cons a values ih =>
    cases values with
    | nil => simp [checkCanonicalOrder, Ascending]
    | cons b values =>
      rw [checkCanonicalOrder]
      split_ifs with heq hlt
      · simp only [false_iff]
        intro h
        exact ((ascending_cons.mp h).1 b List.mem_cons_self).ne heq.symm
      · simp only [false_iff]
        intro h
        exact ((ascending_cons.mp h).1 b List.mem_cons_self).asymm hlt
      · rw [ih]
        have hab : key a < key b :=
          lt_of_le_of_ne (not_lt.mp hlt) (Ne.symm heq)
        constructor
        · intro h
          refine ascending_cons.mpr ⟨?_, h⟩
          intro c hc
          rcases List.mem_cons.mp hc with rfl | hc
          · exact hab
          · exact hab.trans ((ascending_cons.mp h).1 c hc)
        · exact Ascending.tail

theorem requireCanonical_eq_ok {α κ : Type} [LinearOrder κ] {key : α → κ}
    {values : List α} {u : Unit} :
    requireCanonical key values = .ok u ↔ Ascending key values := by
  rw [requireCanonical, throwIf_eq_ok, ← checkCanonicalOrder_eq_canonical]
  simp

theorem requireCanonical_bind_eq_ok {α β κ : Type} [LinearOrder κ]
    {key : α → κ} {values : List α} {next : Unit → Except Exception β} {b : β} :
    (requireCanonical key values >>= next) = .ok b ↔
      Ascending key values ∧ next () = .ok b := by
  rw [except_bind_eq_ok]
  constructor
  · rintro ⟨u, hu, hn⟩
    exact ⟨requireCanonical_eq_ok.mp hu, hn⟩
  · rintro ⟨ha, hn⟩
    exact ⟨(), requireCanonical_eq_ok.mpr ha, hn⟩

/-- The ids of the actor records of a delta, over all three categories. -/
def actorRecordIds (payload : SnapshotPayload) : List UInt32 :=
  payload.actorValues.map (·.id.value) ++
    payload.actorDeltas.map (·.id.value) ++ payload.removedActors.map (·.value)

def lootRecordIds (payload : SnapshotPayload) : List UInt32 :=
  payload.lootValues.map (·.id) ++ payload.lootDeltas.map (·.id) ++
    payload.removedLoot

theorem hasDuplicateActorCategory_eq_false {payload : SnapshotPayload} :
    hasDuplicateActorCategory payload = false ↔
      (actorRecordIds payload).Nodup := by
  rw [hasDuplicateActorCategory, hasAdjacentDuplicate_sortByKey, List.map_id]
  rfl

theorem hasDuplicateLootCategory_eq_false {payload : SnapshotPayload} :
    hasDuplicateLootCategory payload = false ↔
      (lootRecordIds payload).Nodup := by
  rw [hasDuplicateLootCategory, hasAdjacentDuplicate_sortByKey, List.map_id]
  rfl

structure ValidPrecisionKeyframe (payload : SnapshotPayload) : Prop where
  global : isValidPrecisionGlobal payload.fullPrecision = true
  actorCount : payload.fullPrecision.actors.length ≤ maxSnapshotActors
  lootCount : payload.fullPrecision.loot.length ≤ maxSnapshotLoot
  actors : ∀ actor ∈ payload.fullPrecision.actors,
    isValidPrecisionActor actor = true
  loot : ∀ loot ∈ payload.fullPrecision.loot, isValidLoot loot = true
  actorOrder : Ascending NetworkActorSnapshot.id payload.fullPrecision.actors
  lootOrder : Ascending NetworkLootSnapshot.id payload.fullPrecision.loot

theorem validatePrecisionKeyframe_eq_ok {payload : SnapshotPayload} :
    validatePrecisionKeyframe payload = .ok () ↔
      ValidPrecisionKeyframe payload := by
  simp only [validatePrecisionKeyframe, throwIf_bind_eq_ok,
    requireCanonical_bind_eq_ok, requireCanonical_eq_ok, Bool.or_eq_false_iff,
    Bool.not_eq_false', decide_eq_false_iff_not, not_lt, List.all_eq_true]
  constructor
  · rintro ⟨⟨⟨⟨⟨hg, hac⟩, hlc⟩, ha⟩, hl⟩, hao, hlo⟩
    exact ⟨hg, hac, hlc, ha, hl, hao, hlo⟩
  · rintro ⟨hg, hac, hlc, ha, hl, hao, hlo⟩
    exact ⟨⟨⟨⟨⟨hg, hac⟩, hlc⟩, ha⟩, hl⟩, hao, hlo⟩

/-- The worlds a quantized keyframe may carry. -/
structure QuantizedWorld.Valid (world : QuantizedWorld) : Prop where
  global : isValidQuantizedGlobal world.global = true
  actorCount : world.actors.length ≤ maxSnapshotActors
  lootCount : world.loot.length ≤ maxSnapshotLoot
  actors : ∀ actor ∈ world.actors, isValidQuantizedActor actor = true
  loot : ∀ loot ∈ world.loot, isValidQuantizedLoot loot = true
  actorOrder : Ascending QuantizedActorValue.id world.actors
  lootOrder : Ascending QuantizedLootValue.id world.loot

/-- The entities of a world in ascending order of their ids. -/
structure QuantizedWorld.Sorted (world : QuantizedWorld) : Prop where
  actors : Ascending QuantizedActorValue.id world.actors
  loot : Ascending QuantizedLootValue.id world.loot

theorem QuantizedWorld.Valid.sorted {world : QuantizedWorld}
    (h : world.Valid) : world.Sorted :=
  ⟨h.actorOrder, h.lootOrder⟩

theorem validateQuantizedKeyframe_eq_ok {payload : SnapshotPayload} :
    validateQuantizedKeyframe payload = .ok () ↔ payload.worldFromKeyframe.Valid := by
  simp only [validateQuantizedKeyframe, throwIf_bind_eq_ok,
    requireCanonical_bind_eq_ok, requireCanonical_eq_ok, Bool.or_eq_false_iff,
    Bool.not_eq_false', decide_eq_false_iff_not, not_lt, List.all_eq_true]
  constructor
  · rintro ⟨⟨⟨⟨⟨hg, hac⟩, hlc⟩, ha⟩, hl⟩, hao, hlo⟩
    exact ⟨hg, hac, hlc, ha, hl, hao, hlo⟩
  · rintro ⟨hg, hac, hlc, ha, hl, hao, hlo⟩
    exact ⟨⟨⟨⟨⟨hg, hac⟩, hlc⟩, ha⟩, hl⟩, hao, hlo⟩

structure ValidDelta (payload : SnapshotPayload) : Prop where
  actorCount : actorRecordCount payload ≤ maxSnapshotActors
  lootCount : lootRecordCount payload ≤ maxSnapshotLoot
  global : isValidQuantizedGlobalDelta payload.globalDelta = true
  actorValues : ∀ actor ∈ payload.actorValues,
    isValidQuantizedActor actor = true
  actorDeltas : ∀ actor ∈ payload.actorDeltas,
    isValidQuantizedActorDelta actor = true
  lootValues : ∀ loot ∈ payload.lootValues, isValidQuantizedLoot loot = true
  lootDeltas : ∀ loot ∈ payload.lootDeltas, loot.fields = .active
  actorValueOrder : Ascending QuantizedActorValue.id payload.actorValues
  actorDeltaOrder : Ascending QuantizedActorDelta.id payload.actorDeltas
  removedActorOrder : Ascending id payload.removedActors
  lootValueOrder : Ascending QuantizedLootValue.id payload.lootValues
  lootDeltaOrder : Ascending QuantizedLootDelta.id payload.lootDeltas
  removedLootOrder : Ascending id payload.removedLoot
  actorNodup : (actorRecordIds payload).Nodup
  lootNodup : (lootRecordIds payload).Nodup

theorem validateDelta_eq_ok {payload : SnapshotPayload} :
    validateDelta payload = .ok () ↔ ValidDelta payload := by
  simp only [validateDelta, throwIf_bind_eq_ok, requireCanonical_bind_eq_ok,
    throwIf_eq_ok, Bool.or_eq_false_iff, Bool.not_eq_false',
    decide_eq_false_iff_not, not_lt, List.all_eq_true, beq_iff_eq,
    hasDuplicateActorCategory_eq_false, hasDuplicateLootCategory_eq_false]
  constructor
  · rintro ⟨⟨hac, hlc⟩, ⟨⟨⟨⟨hg, hav⟩, had⟩, hlv⟩, hld⟩, h1, h2, h3, h4, h5, h6,
      hna, hnl⟩
    exact ⟨hac, hlc, hg, hav, had, hlv, hld, h1, h2, h3, h4, h5, h6, hna, hnl⟩
  · rintro ⟨hac, hlc, hg, hav, had, hlv, hld, h1, h2, h3, h4, h5, h6, hna, hnl⟩
    exact ⟨⟨hac, hlc⟩, ⟨⟨⟨⟨hg, hav⟩, had⟩, hlv⟩, hld⟩, h1, h2, h3, h4, h5, h6,
      hna, hnl⟩

/-- The parts of a payload that hold delta records are empty. -/
structure NoDeltaRecords (payload : SnapshotPayload) : Prop where
  actorDeltas : payload.actorDeltas = []
  lootDeltas : payload.lootDeltas = []
  removedActors : payload.removedActors = []
  removedLoot : payload.removedLoot = []
  globalDelta : payload.globalDelta = {}

theorem hasDeltaRecords_eq_false {payload : SnapshotPayload} :
    hasDeltaRecords payload = false ↔ NoDeltaRecords payload := by
  simp only [hasDeltaRecords, hasDefaultGlobalDelta, Bool.or_eq_false_iff,
    Bool.not_eq_false', List.isEmpty_iff, beq_iff_eq]
  constructor
  · rintro ⟨⟨⟨⟨h1, h2⟩, h3⟩, h4⟩, h5⟩
    exact ⟨h1, h2, h3, h4, h5⟩
  · rintro ⟨h1, h2, h3, h4, h5⟩
    exact ⟨⟨⟨⟨h1, h2⟩, h3⟩, h4⟩, h5⟩

structure NoQuantizedBody (payload : SnapshotPayload) : Prop where
  actorValues : payload.actorValues = []
  lootValues : payload.lootValues = []
  global : payload.global = {}

theorem hasQuantizedBody_eq_false {payload : SnapshotPayload} :
    hasQuantizedBody payload = false ↔ NoQuantizedBody payload := by
  simp only [hasQuantizedBody, hasDefaultQuantizedGlobal,
    Bool.or_eq_false_iff, Bool.not_eq_false', List.isEmpty_iff, beq_iff_eq]
  constructor
  · rintro ⟨⟨h1, h2⟩, h3⟩
    exact ⟨h1, h2, h3⟩
  · rintro ⟨h1, h2, h3⟩
    exact ⟨⟨h1, h2⟩, h3⟩

/-- The four forms of a payload the encoder accepts. -/
inductive ValidPayload (payload : SnapshotPayload) : Prop where
  | fullState (header : isValidHeader payload.header = true)
      (kind : payload.header.kind = .fullState)
      (encoding : payload.header.valueEncoding = .fullPrecision)
      (deltas : NoDeltaRecords payload) (quantized : NoQuantizedBody payload)
  | precisionKeyframe (header : isValidHeader payload.header = true)
      (kind : payload.header.kind = .keyframe)
      (encoding : payload.header.valueEncoding = .fullPrecision)
      (deltas : NoDeltaRecords payload) (quantized : NoQuantizedBody payload)
      (body : ValidPrecisionKeyframe payload)
  | quantizedKeyframe (header : isValidHeader payload.header = true)
      (kind : payload.header.kind = .keyframe)
      (encoding : payload.header.valueEncoding ≠ .fullPrecision)
      (deltas : NoDeltaRecords payload)
      (precision : hasDefaultPrecisionBody payload = true)
      (body : payload.worldFromKeyframe.Valid)
  | delta (header : isValidHeader payload.header = true)
      (notFullState : payload.header.kind ≠ .fullState)
      (notKeyframe : payload.header.kind ≠ .keyframe)
      (precision : hasDefaultPrecisionBody payload = true)
      (global : payload.global = {}) (body : ValidDelta payload)

theorem ValidPayload.keyframe {payload : SnapshotPayload} (h : ValidPayload payload)
    (hkey : payload.header.kind = .keyframe)
    (hencoding : payload.header.valueEncoding ≠ .fullPrecision) :
    payload.worldFromKeyframe.Valid := by
  have hne : payload.header.kind ≠ .fullState := by rw [hkey]; decide
  cases h with
  | fullState _ hfull => exact (hne hfull).elim
  | precisionKeyframe _ _ hprecision => exact (hencoding hprecision).elim
  | quantizedKeyframe _ _ _ _ _ hbody => exact hbody
  | delta _ _ hdelta => exact (hdelta hkey).elim

theorem ValidPayload.deltaBody {payload : SnapshotPayload} (h : ValidPayload payload)
    (hfull : payload.header.kind ≠ .fullState)
    (hkey : payload.header.kind ≠ .keyframe) : ValidDelta payload := by
  cases h with
  | fullState _ hkind => exact (hfull hkind).elim
  | precisionKeyframe _ hkind => exact (hkey hkind).elim
  | quantizedKeyframe _ hkind => exact (hkey hkind).elim
  | delta _ _ _ _ _ hdelta => exact hdelta

theorem validatePayload_eq_ok {payload : SnapshotPayload} :
    validatePayload payload = .ok () ↔ ValidPayload payload := by
  simp only [validatePayload, throwIf_bind_eq_ok, Bool.not_eq_false']
  constructor
  · rintro ⟨hh, h⟩
    split_ifs at h with hfull hkey henc
    · simp only [throwIf_eq_ok, Bool.or_eq_false_iff, bne_eq_false_iff_eq,
        hasDeltaRecords_eq_false, hasQuantizedBody_eq_false] at h
      exact .fullState hh hfull h.1.1 h.1.2 h.2
    · simp only [throwIf_bind_eq_ok, hasDeltaRecords_eq_false,
        hasQuantizedBody_eq_false, validatePrecisionKeyframe_eq_ok] at h
      exact .precisionKeyframe hh hkey henc h.1 h.2.1 h.2.2
    · simp only [throwIf_bind_eq_ok, hasDeltaRecords_eq_false,
        Bool.not_eq_false', validateQuantizedKeyframe_eq_ok] at h
      exact .quantizedKeyframe hh hkey henc h.1 h.2.1 h.2.2
    · simp only [throwIf_bind_eq_ok, Bool.or_eq_false_iff, Bool.not_eq_false',
        hasDefaultQuantizedGlobal, beq_iff_eq, validateDelta_eq_ok] at h
      exact .delta hh hfull hkey h.1.1 h.1.2 h.2
  · rintro (⟨hh, hfull, henc, hd, hq⟩ | ⟨hh, hkey, henc, hd, hq, hb⟩ |
      ⟨hh, hkey, henc, hd, hp, hb⟩ | ⟨hh, hfull, hkey, hp, hg, hb⟩)
    · refine ⟨hh, ?_⟩
      rw [if_pos hfull, throwIf_eq_ok]
      simp [henc, hasDeltaRecords_eq_false.mpr hd,
        hasQuantizedBody_eq_false.mpr hq]
    · have hne : payload.header.kind ≠ .fullState := by rw [hkey]; decide
      refine ⟨hh, ?_⟩
      rw [if_neg hne, if_pos hkey, if_pos henc]
      simp only [throwIf_bind_eq_ok, hasDeltaRecords_eq_false,
        hasQuantizedBody_eq_false, validatePrecisionKeyframe_eq_ok]
      exact ⟨hd, hq, hb⟩
    · have hne : payload.header.kind ≠ .fullState := by rw [hkey]; decide
      refine ⟨hh, ?_⟩
      rw [if_neg hne, if_pos hkey, if_neg henc]
      simp only [throwIf_bind_eq_ok, hasDeltaRecords_eq_false,
        Bool.not_eq_false', validateQuantizedKeyframe_eq_ok]
      exact ⟨hd, hp, hb⟩
    · refine ⟨hh, ?_⟩
      rw [if_neg hfull, if_neg hkey]
      simp only [throwIf_bind_eq_ok, Bool.or_eq_false_iff, Bool.not_eq_false',
        hasDefaultQuantizedGlobal, beq_iff_eq, validateDelta_eq_ok]
      exact ⟨⟨hp, hg⟩, hb⟩

end SurvivalArena
