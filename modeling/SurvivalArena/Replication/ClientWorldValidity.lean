import SurvivalArena.Protocol.ReplicationRoundTrip
import SurvivalArena.Replication.ClientSnapshotStream

/-!
# The worlds the client publishes

A delta is validated without its base.  Merged into a valid world it keeps the
order of the entities and the fields of each of them; the entity counts and the
agreement of phase, result and living contenders hold of the merged world only
when the base and the delta fit together.
-/

namespace SurvivalArena

open Wire KeyedList

/-- The rules a keyframe's world is checked against. -/
structure GameSnapshot.KeyframeRules (world : GameSnapshot) : Prop where
  actorOrder : Ascending NetworkActorSnapshot.id world.actors
  lootOrder : Ascending NetworkLootSnapshot.id world.loot
  actorCount : world.actors.length ≤ maxSnapshotActors
  lootCount : world.loot.length ≤ maxSnapshotLoot
  finished : world.hasResult = (world.phase == .finished)
  alive : ∀ actor ∈ world.actors, actor.alive = decide (0 < actor.health)
  living : world.hasResult = true → world.aliveContenders = 1

/-- A field of the merged global: the delta's when it carries it. -/
def QuantizedGlobalDelta.merged {α : Type} (delta : QuantizedGlobalDelta)
    (field : GlobalField) (carried kept : α) : α :=
  if delta.fields.has field then carried else kept

/-- What a delta's own validation cannot see: that its base leaves room for the
entered entities, and that the result it leaves agrees with the phase and the
living contenders it leaves. -/
structure DeltaFits (base : QuantizedWorld) (payload : SnapshotPayload) :
    Prop where
  actors : base.actors.length + payload.actorValues.length ≤
    maxSnapshotActors + payload.removedActors.length
  loot : base.loot.length + payload.lootValues.length ≤
    maxSnapshotLoot + payload.removedLoot.length
  finished :
    let delta := payload.globalDelta
    delta.merged .result delta.hasResult base.global.hasResult =
      (delta.merged .phase delta.phase base.global.phase == .finished)
  living :
    let delta := payload.globalDelta
    delta.merged .result delta.hasResult base.global.hasResult = true →
      delta.merged .aliveContenders delta.aliveContenders
        base.global.aliveContenders = 1

/-! ## Merging one delta -/

theorem isValidQuantizedActor_changeActor {change : QuantizedActorDelta}
    {actor : QuantizedActorValue}
    (hchange : isValidQuantizedActorDelta change = true)
    (hactor : isValidQuantizedActor actor = true) :
    isValidQuantizedActor (changeActor change actor) = true := by
  simp only [isValidQuantizedActorDelta, Bool.and_eq_true, Bool.or_eq_true,
    Bool.not_eq_true'] at hchange
  simp only [isValidQuantizedActor, Bool.and_eq_true] at hactor ⊢
  obtain ⟨⟨-, hhealth⟩, hweapon⟩ := hchange
  obtain ⟨⟨⟨hidentity, hkept⟩, hmaximum⟩, halive⟩ := hactor
  simp only [changeActor]
  refine ⟨⟨⟨hidentity, ?_⟩, ?_⟩, ?_⟩
  · split <;> simp_all
  · split <;> simp_all
  · split <;> simp_all

/-- The entity lists of an applied delta. -/
private theorem applyDelta_lists {base applied : QuantizedWorld}
    {payload : SnapshotPayload} (hbase : base.Valid)
    (hpayload : ValidDelta payload) (h : applyDelta base payload = .ok applied) :
    applied.Sorted ∧
      applied.actors.length + payload.removedActors.length =
        base.actors.length + payload.actorValues.length ∧
      applied.loot.length + payload.removedLoot.length =
        base.loot.length + payload.lootValues.length ∧
      (∀ actor ∈ applied.actors, isValidQuantizedActor actor = true) ∧
      ∀ loot ∈ applied.loot, isValidQuantizedLoot loot = true := by
  obtain ⟨-, ⟨kept, entered, hra, hea, hca⟩, keptLoot, enteredLoot, hrl, hel,
    hcl⟩ := applyDelta_eq_ok.mp h
  obtain ⟨hak, hlk, hmk⟩ := eraseAll_spec hbase.actorOrder hra
  obtain ⟨hae, hle, hme⟩ := insertAll_spec hak hea
  obtain ⟨haa, hla, hma⟩ := modifyAll_spec changeActor_id hae hca
  obtain ⟨gak, glk, gmk⟩ := eraseAll_spec hbase.lootOrder hrl
  obtain ⟨gae, gle, gme⟩ := insertAll_spec gak hel
  obtain ⟨gaa, gla, gma⟩ := modifyAll_spec changeLootValue_id gae hcl
  refine ⟨⟨haa, gaa⟩, by omega, by omega, ?_, ?_⟩
  · intro actor hactor
    obtain ⟨before, hbefore, rfl⟩ := (hma actor).mp hactor
    have hvalid : isValidQuantizedActor before = true := by
      rcases (hme before).mp hbefore with hin | hin
      · exact hpayload.actorValues before hin
      · exact hbase.actors before ((hmk before).mp hin).1
    exact patch_induct (P := fun actor => isValidQuantizedActor actor = true)
      hvalid fun change hmem _ =>
        isValidQuantizedActor_changeActor (hpayload.actorDeltas change hmem)
  · intro loot hloot
    obtain ⟨before, hbefore, rfl⟩ := (gma loot).mp hloot
    have hvalid : isValidQuantizedLoot before = true := by
      rcases (gme before).mp hbefore with hin | hin
      · exact hpayload.lootValues before hin
      · exact hbase.loot before ((gmk before).mp hin).1
    exact patch_induct (P := fun loot => isValidQuantizedLoot loot = true)
      hvalid fun _ _ _ hkept => hkept

private theorem toUInt32_eq_one {value : UInt8} :
    value.toUInt32 = 1 ↔ value = 1 := by
  rw [← UInt32.toNat_inj, ← UInt8.toNat_inj]
  simp

/-- Widening a health keeps its sign. -/
private theorem health_pos_iff {health : UInt8} (h : decide (health ≤ 100) = true) :
    0 < health ↔ 0 < health.toUInt32.toInt32 := by
  revert health
  decide +kernel

/-- A result left by the merge has a valid reason. -/
private theorem isValidEndReason_applyGlobalDelta {base : QuantizedGlobalValue}
    {delta : QuantizedGlobalDelta}
    (hbase : isValidQuantizedGlobal base = true)
    (hdelta : isValidQuantizedGlobalDelta delta = true)
    (hresult : (applyGlobalDelta base delta).hasResult = true) :
    isValidEndReason (applyGlobalDelta base delta).result.reason = true := by
  simp only [isValidQuantizedGlobal, isValidResultState, Bool.and_eq_true] at hbase
  simp only [isValidQuantizedGlobalDelta, isValidDeltaResult,
    Bool.and_eq_true] at hdelta
  simp only [applyGlobalDelta] at hresult ⊢
  split
  · simp_all
  · simp_all

/-- The merged global is valid when its phase, its result and its living
contenders agree. -/
private theorem isValidQuantizedGlobal_applyGlobalDelta
    {base : QuantizedGlobalValue} {delta : QuantizedGlobalDelta}
    (hbase : isValidQuantizedGlobal base = true)
    (hdelta : isValidQuantizedGlobalDelta delta = true)
    (hfinished : (applyGlobalDelta base delta).hasResult =
      ((applyGlobalDelta base delta).phase == .finished))
    (hliving : (applyGlobalDelta base delta).hasResult = true →
      (applyGlobalDelta base delta).aliveContenders = 1) :
    isValidQuantizedGlobal (applyGlobalDelta base delta) = true := by
  have hreason := isValidEndReason_applyGlobalDelta hbase hdelta
  simp only [isValidQuantizedGlobal, Bool.and_eq_true] at hbase
  simp only [isValidQuantizedGlobalDelta, Bool.and_eq_true, Bool.or_eq_true,
    Bool.not_eq_true'] at hdelta
  obtain ⟨⟨⟨hphase, hstage⟩, halive⟩, -⟩ := hbase
  obtain ⟨⟨⟨-, dphase⟩, dstage⟩, dalive⟩ := hdelta.1
  have hphase' : isValidPhase (applyGlobalDelta base delta).phase = true := by
    simp only [applyGlobalDelta]
    split <;> simp_all
  have hstage' : isValidSafeZoneStage
      (applyGlobalDelta base delta).safeZoneStage = true := by
    simp only [applyGlobalDelta]
    split <;> simp_all
  have halive' : decide ((applyGlobalDelta base delta).aliveContenders.toNat ≤
      roomCapacity) = true := by
    simp only [applyGlobalDelta]
    split <;> simp_all
  rw [isValidQuantizedGlobal, hphase', hstage', halive', Bool.true_and,
    Bool.true_and, Bool.true_and, isValidResultState, Bool.and_eq_true,
    beq_iff_eq, Bool.or_eq_true, Bool.not_eq_true', Bool.and_eq_true,
    beq_iff_eq, toUInt32_eq_one]
  refine ⟨hfinished, ?_⟩
  cases hresult : (applyGlobalDelta base delta).hasResult with
  | false => exact Or.inl rfl
  | true => exact Or.inr ⟨hliving hresult, hreason hresult⟩

/-- The client's image of a world with valid entities follows the rules when the
world's counts and its global state do. -/
theorem dequantizeWorld_keyframeRules {world : QuantizedWorld}
    (hsorted : world.Sorted)
    (hactors : ∀ actor ∈ world.actors, isValidQuantizedActor actor = true) :
    (dequantizeWorld world).KeyframeRules ↔
      world.actors.length ≤ maxSnapshotActors ∧
      world.loot.length ≤ maxSnapshotLoot ∧
      world.global.hasResult = (world.global.phase == .finished) ∧
      (world.global.hasResult = true → world.global.aliveContenders = 1) := by
  constructor
  · intro h
    have hac := h.actorCount
    have hlc := h.lootCount
    simp only [dequantizeWorld, List.length_map] at hac hlc
    exact ⟨hac, hlc, h.finished, fun hres => toUInt32_eq_one.mp (h.living hres)⟩
  · rintro ⟨hac, hlc, hfinished, hliving⟩
    exact {
      actorOrder := ascending_map.mpr hsorted.actors
      lootOrder := ascending_map.mpr hsorted.loot
      actorCount := by simpa [dequantizeWorld] using hac
      lootCount := by simpa [dequantizeWorld] using hlc
      finished := hfinished
      alive := by
        intro actor hmem
        obtain ⟨source, hsource, rfl⟩ := List.mem_map.mp hmem
        have hvalid := hactors source hsource
        simp only [isValidQuantizedActor, Bool.and_eq_true, beq_iff_eq] at hvalid
        rw [dequantizeActor, hvalid.2, decide_eq_decide]
        exact health_pos_iff hvalid.1.2
      living := fun hres => toUInt32_eq_one.mpr (hliving hres) }

/-- The client's image of a valid delta merged into a valid world follows the
rules exactly when the two fit. -/
theorem applyDelta_keyframeRules {base applied : QuantizedWorld}
    {payload : SnapshotPayload} (hbase : base.Valid)
    (hpayload : ValidDelta payload) (h : applyDelta base payload = .ok applied) :
    ((dequantizeWorld applied).KeyframeRules ↔ DeltaFits base payload) ∧
      (DeltaFits base payload → applied.Valid) := by
  obtain ⟨hsorted, hactors, hloot, hvalidActors, hvalidLoot⟩ :=
    applyDelta_lists hbase hpayload h
  have hglobal := (applyDelta_eq_ok.mp h).1
  rw [dequantizeWorld_keyframeRules hsorted hvalidActors]
  constructor
  · rw [hglobal]
    constructor
    · rintro ⟨hac, hlc, hfinished, hliving⟩
      exact ⟨by omega, by omega, hfinished, hliving⟩
    · rintro ⟨hac, hlc, hfinished, hliving⟩
      exact ⟨by omega, by omega, hfinished, hliving⟩
  · rintro ⟨hac, hlc, hfinished, hliving⟩
    refine ⟨?_, by omega, by omega, hvalidActors, hvalidLoot, hsorted.actors,
      hsorted.loot⟩
    rw [hglobal]
    exact isValidQuantizedGlobal_applyGlobalDelta hbase.global hpayload.global
      hfinished hliving

/-! ## Payloads that carry a world -/

theorem GameSnapshot.Consistent.keyframeRules {world : GameSnapshot}
    (h : world.Consistent) : world.KeyframeRules := by
  have houtcome := h.outcome
  simp only [hasValidOutcome, Bool.and_eq_true, beq_iff_eq, Bool.or_eq_true,
    Bool.not_eq_true'] at houtcome
  refine ⟨h.actorOrder, h.lootOrder, h.actorCount, h.lootCount, houtcome.1, ?_,
    ?_⟩
  · intro actor hmem
    have hvalid := h.actors actor hmem
    simp only [isValidActor, Bool.and_eq_true, beq_iff_eq] at hvalid
    exact hvalid.2
  · intro hresult
    rcases houtcome.2 with hnone | hsome
    · rw [hresult] at hnone
      cases hnone
    · exact hsome.1.2

theorem ValidPrecisionKeyframe.keyframeRules {payload : SnapshotPayload}
    (h : ValidPrecisionKeyframe payload) :
    payload.fullPrecision.KeyframeRules := by
  have hglobal := h.global
  simp only [isValidPrecisionGlobal, isValidResultState, Bool.and_eq_true,
    beq_iff_eq, Bool.or_eq_true, Bool.not_eq_true'] at hglobal
  refine ⟨h.actorOrder, h.lootOrder, h.actorCount, h.lootCount, hglobal.2.1, ?_,
    ?_⟩
  · intro actor hmem
    have hvalid := h.actors actor hmem
    simp only [isValidPrecisionActor, isValidActor, Bool.and_eq_true,
      beq_iff_eq] at hvalid
    exact hvalid.2
  · intro hresult
    rcases hglobal.2.2 with hnone | hsome
    · rw [hresult] at hnone
      cases hnone
    · exact hsome.1

theorem QuantizedWorld.Valid.keyframeRules {world : QuantizedWorld}
    (h : world.Valid) : (dequantizeWorld world).KeyframeRules := by
  have hglobal := h.global
  simp only [isValidQuantizedGlobal, isValidResultState, Bool.and_eq_true,
    beq_iff_eq, Bool.or_eq_true, Bool.not_eq_true'] at hglobal
  refine (dequantizeWorld_keyframeRules h.sorted h.actors).mpr
    ⟨h.actorCount, h.lootCount, hglobal.2.1, fun hresult => ?_⟩
  rcases hglobal.2.2 with hnone | hsome
  · rw [hresult] at hnone
    cases hnone
  · exact toUInt32_eq_one.mp hsome.1

/-- A payload some bytes decode to. -/
def SnapshotPayload.Decoded (payload : SnapshotPayload) : Prop :=
  ∃ bytes, decodeSnapshotPayload bytes = .ok payload

theorem SnapshotPayload.Decoded.valid {payload : SnapshotPayload}
    (h : payload.Decoded) : ValidPayload payload := by
  obtain ⟨bytes, hbytes⟩ := h
  exact (decodeSnapshotPayload_eq_ok.mp hbytes).2.2

theorem SnapshotPayload.Decoded.validDelta {payload : SnapshotPayload}
    (h : payload.Decoded) (hfull : payload.header.kind ≠ .fullState)
    (hkey : payload.header.kind ≠ .keyframe) : ValidDelta payload :=
  h.valid.deltaBody hfull hkey

theorem SnapshotPayload.decoded_of_encodes {payload : SnapshotPayload}
    (hencodes : (encodeSnapshotPayload payload).isOk = true)
    (hnormal : payload.normalize = payload) : payload.Decoded := by
  cases hencode : encodeSnapshotPayload payload with
  | error e => simp [hencode, Except.isOk, Except.toBool] at hencodes
  | ok bytes =>
    refine ⟨bytes, ?_⟩
    rw [decodeSnapshotPayload_encodeSnapshotPayload hencode, hnormal]

theorem SnapshotPayload.Decoded.encodes {payload : SnapshotPayload}
    (h : payload.Decoded) (hfull : payload.header.kind ≠ .fullState) :
    ∃ bytes, encodeSnapshotPayload payload = .ok bytes := by
  obtain ⟨bytes, hbytes⟩ := h
  exact ⟨bytes, encodeSnapshotPayload_decodeSnapshotPayload hbytes hfull⟩

/-- The body of a decoded full-state payload is a consistent world. -/
theorem SnapshotPayload.Decoded.consistent {payload : SnapshotPayload}
    (h : payload.Decoded) (hfull : payload.header.kind = .fullState) :
    payload.fullPrecision.Consistent := by
  obtain ⟨bytes, hbytes⟩ := h
  obtain ⟨header, body, -, -, hbody⟩ :=
    readPayload_eq_ok.mp (decodeSnapshotPayload_eq_ok.mp hbytes).2.1
  have hheader : header.kind = .fullState := by
    by_contra hne
    obtain ⟨rfl, -⟩ := readBody_shape hne hbody
    exact hne hfull
  rw [readBody, if_pos hheader] at hbody
  obtain ⟨world, _, hworld, hrest⟩ := bind_eq_ok.mp hbody
  obtain ⟨rfl, -⟩ := pure_eq_ok.mp hrest
  cases hdecode : decodeGameSnapshot body with
  | error e => simp [readFullState, hdecode, Except.mapError, Except.map] at hworld
  | ok decoded =>
    simp only [readFullState, hdecode, Except.mapError, Except.map,
      Except.ok.injEq, Prod.mk.injEq] at hworld
    obtain ⟨rfl, -⟩ := hworld
    exact decodeGameSnapshot_consistent hdecode

theorem SnapshotPayload.Decoded.precisionRules {payload : SnapshotPayload}
    (h : payload.Decoded)
    (hkind : payload.header.kind = .fullState ∨
      payload.header.kind = .keyframe ∧
        payload.header.valueEncoding = .fullPrecision) :
    payload.fullPrecision.KeyframeRules := by
  rcases hkind with hfull | ⟨hkey, hencoding⟩
  · exact (h.consistent hfull).keyframeRules
  · have hne : payload.header.kind ≠ .fullState := by rw [hkey]; decide
    cases h.valid with
    | fullState _ hfull => exact (hne hfull).elim
    | precisionKeyframe _ _ _ _ _ hbody => exact hbody.keyframeRules
    | quantizedKeyframe _ _ hquantized => exact (hquantized hencoding).elim
    | delta _ _ hdelta => exact (hdelta hkey).elim

theorem SnapshotPayload.Decoded.validKeyframe {payload : SnapshotPayload}
    (h : payload.Decoded) (hkey : payload.header.kind = .keyframe)
    (hencoding : payload.header.valueEncoding ≠ .fullPrecision) :
    payload.worldFromKeyframe.Valid :=
  h.valid.keyframe hkey hencoding

/-! ## The stream -/

namespace ClientSnapshotStream

/-- Every quantized baseline is a world a keyframe may carry. -/
def Valid (stream : ClientSnapshotStream) : Prop :=
  ∀ baseline ∈ stream.baselines, ∀ world, baseline.quantized = some world →
    world.Valid

/-- Apply a sequence of payloads, each with its snapshot id, and collect the
published worlds; a payload that throws does not end the sequence. -/
def run (stream : ClientSnapshotStream) :
    List (UInt32 × SnapshotPayload) → ClientSnapshotStream × List GameSnapshot
  | [] => (stream, [])
  | (snapshotId, payload) :: steps =>
    let step := stream.apply snapshotId payload
    let rest := run step.1 steps
    (rest.1, (publishedWorld step.2).toList ++ rest.2)

/-- Every delta the stream merges during the sequence fits its base. -/
def RunFits (stream : ClientSnapshotStream) :
    List (UInt32 × SnapshotPayload) → Prop
  | [] => True
  | (snapshotId, payload) :: steps =>
    (∀ base, stream.Merges snapshotId payload base → DeltaFits base payload) ∧
      RunFits (stream.apply snapshotId payload).1 steps

theorem Valid.store {stream : ClientSnapshotStream} (h : stream.Valid)
    {baseline : ClientBaseline}
    (hbaseline : ∀ world, baseline.quantized = some world → world.Valid) :
    (stream.store baseline).Valid := by
  intro stored hmem
  have hmem : stored ∈ stream.baselines ++ [baseline] :=
    List.mem_of_mem_drop hmem
  rcases List.mem_append.mp hmem with hold | hnew
  · exact h stored hold
  · obtain rfl := List.mem_singleton.mp hnew
    exact hbaseline

theorem Valid.quantizedBaseline {stream : ClientSnapshotStream}
    (h : stream.Valid) {snapshotId : UInt32} {base : QuantizedWorld}
    (hbase : stream.quantizedBaseline snapshotId = some base) : base.Valid := by
  obtain ⟨baseline, hfind, hquantized⟩ := Option.bind_eq_some_iff.mp hbase
  exact h baseline (List.mem_of_find?_eq_some hfind) base hquantized

/-- One application: the stream's worlds stay valid and the published world
follows the rules, exactly as far as the merged delta fits. -/
theorem apply_keyframeRules {stream : ClientSnapshotStream}
    (hstream : stream.Valid) (snapshotId : UInt32) {payload : SnapshotPayload}
    (hdecoded : payload.Decoded) :
    ((∀ world ∈ publishedWorld (stream.apply snapshotId payload).2,
        world.KeyframeRules) ↔
      ∀ base, stream.Merges snapshotId payload base →
        DeltaFits base payload) ∧
    ((∀ base, stream.Merges snapshotId payload base → DeltaFits base payload) →
      (stream.apply snapshotId payload).1.Valid) := by
  generalize hstep : stream.apply snapshotId payload = step
  cases hstep ▸ stream.apply_step snapshotId payload with
  | silent next outcome hnone hbaselines _ hunmerged =>
    have hmerges : ∀ base, ¬stream.Merges snapshotId payload base := by
      intro base hmerges
      exact hunmerged (hdecoded.encodes hmerges.kind.1) base hmerges
    refine ⟨by simp [hnone, hmerges], fun _ => ?_⟩
    rw [Valid, hbaselines]
    exact hstream
  | published next outcome quantized world hsource hworld hbaselines _ _ =>
    have hvalid : (∀ w, quantized = some w → w.Valid) → next.Valid := by
      intro hquantized
      rw [Valid, hbaselines]
      exact hstream.store hquantized
    rw [hworld]
    simp only [Option.mem_some_iff, forall_eq']
    cases hsource with
    | precision hkind =>
      have hmerges : ∀ base, ¬stream.Merges snapshotId payload base := by
        rintro base ⟨-, -, hne, -, -⟩
        exact hkind.elim hne.1 fun h => hne.2 h.1
      have hrules := hdecoded.precisionRules hkind
      exact ⟨by simp [hmerges, hrules], fun _ => hvalid (by simp)⟩
    | keyframe hkey hencoding =>
      have hmerges : ∀ base, ¬stream.Merges snapshotId payload base :=
        fun base hmerges => hmerges.kind.2 hkey
      have hworld := hdecoded.validKeyframe hkey hencoding
      exact ⟨by simp [hmerges, hworld.keyframeRules],
        fun _ => hvalid (by simpa using hworld)⟩
    | delta base applied hmerges happly =>
      have hbase := hstream.quantizedBaseline hmerges.baseline
      have hdelta := hdecoded.validDelta hmerges.kind.1 hmerges.kind.2
      obtain ⟨hrules, hkept⟩ := applyDelta_keyframeRules hbase hdelta happly
      have honly : (∀ b, stream.Merges snapshotId payload b →
          DeltaFits b payload) ↔ DeltaFits base payload := by
        constructor
        · exact fun hall => hall base hmerges
        · intro hfits b hb
          have := hb.baseline.symm.trans hmerges.baseline
          rwa [Option.some.inj this]
      rw [honly]
      exact ⟨hrules, fun hfits => hvalid (by simpa using hkept hfits)⟩

/-- The worlds of a sequence follow the rules exactly when every merged delta
fits. -/
theorem run_keyframeRules {stream : ClientSnapshotStream}
    (hstream : stream.Valid) (steps : List (UInt32 × SnapshotPayload))
    (hdecoded : ∀ step ∈ steps, step.2.Decoded) :
    (∀ world ∈ (stream.run steps).2, world.KeyframeRules) ↔
      stream.RunFits steps := by
  induction steps generalizing stream with
  | nil => simp [run, RunFits]
  | cons step steps ih =>
    obtain ⟨hfirst, hrest⟩ := List.forall_mem_cons.mp hdecoded
    obtain ⟨hrules, hvalid⟩ := apply_keyframeRules hstream step.1 hfirst
    simp only [run, RunFits, List.mem_append, Option.mem_toList, or_imp,
      forall_and]
    rw [← hrules]
    refine and_congr_right fun hpublished => ?_
    exact ih (hvalid (hrules.mp hpublished)) hrest

/-- The worlds a new stream publishes from decoded payloads follow the rules of
a keyframe exactly when every delta it merges fits its base. -/
theorem create_run_keyframeRules (maximumBaselines : Nat)
    (stream : ClientSnapshotStream)
    (hcreate : create maximumBaselines = .ok stream)
    (steps : List (UInt32 × SnapshotPayload))
    (hdecoded : ∀ step ∈ steps, step.2.Decoded) :
    (∀ world ∈ (stream.run steps).2, world.KeyframeRules) ↔
      stream.RunFits steps := by
  refine run_keyframeRules ?_ steps hdecoded
  simp [Valid, create_baselines hcreate]

/-- A running world with two contenders, and a delta that only finishes it. -/
def runningKeyframe : SnapshotPayload where
  header := { kind := .keyframe, valueEncoding := .quantized,
              payloadSnapshotId := 1 }
  global := { phase := .running, aliveContenders := 2 }
  actorValues := [{ id := ⟨1⟩ }, { id := ⟨2⟩ }]

def finishingDelta : SnapshotPayload where
  header := { kind := .delta, valueEncoding := .quantized,
              baseSnapshotId := 1, payloadSnapshotId := 2 }
  globalDelta := { fields := .phase, phase := .finished }

theorem runningKeyframe_decoded : runningKeyframe.Decoded :=
  SnapshotPayload.decoded_of_encodes (by decide +kernel) (by decide +kernel)

theorem finishingDelta_decoded : finishingDelta.Decoded :=
  SnapshotPayload.decoded_of_encodes (by decide +kernel) (by decide +kernel)

def emptyStream : ClientSnapshotStream where
  maximumBaselines := 32
  capacity := by decide

/-- Both payloads decode, and together they publish a finished world without a
result. -/
theorem finishingDelta_breaks_rules :
    ¬∀ (maximumBaselines : Nat) (stream : ClientSnapshotStream),
      create maximumBaselines = .ok stream →
      ∀ steps : List (UInt32 × SnapshotPayload),
        (∀ step ∈ steps, step.2.Decoded) →
        ∀ world ∈ (stream.run steps).2, world.KeyframeRules := by
  intro h
  have hdecoded : ∀ step ∈ [((1 : UInt32), runningKeyframe),
      (2, finishingDelta)], step.2.Decoded := by
    simp [runningKeyframe_decoded, finishingDelta_decoded]
  have hrules := h 32 emptyStream rfl _ hdecoded
  have hpublished : ((emptyStream.run [(1, runningKeyframe),
      (2, finishingDelta)]).2.map fun world =>
        (world.hasResult, world.phase)) =
      [(false, .running), (false, .finished)] := by
    decide +kernel
  have hmem : (false, NetworkMatchPhase.finished) ∈
      (emptyStream.run [(1, runningKeyframe), (2, finishingDelta)]).2.map
        fun world => (world.hasResult, world.phase) := by
    rw [hpublished]
    decide
  obtain ⟨world, hworld, heq⟩ := List.mem_map.mp hmem
  have hfinished := (hrules world hworld).finished
  obtain ⟨hresult, hphase⟩ := Prod.mk.inj heq
  rw [hresult, hphase] at hfinished
  exact absurd hfinished (by decide)

theorem create_run_keyframeRules_runningKeyframe :
    (∀ world ∈ (emptyStream.run [(1, runningKeyframe)]).2,
      world.KeyframeRules) ↔ emptyStream.RunFits [(1, runningKeyframe)] :=
  create_run_keyframeRules 32 emptyStream rfl [(1, runningKeyframe)]
    (by simp [runningKeyframe_decoded])

end ClientSnapshotStream

end SurvivalArena
