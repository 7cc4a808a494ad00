import SurvivalArena.Replication.ClientWorldValidity

/-!
# Reported transitions

With each world the client's stream reports the actors that left and those that
entered.  A keyframe is compared with the world published last, a delta with the
base it names, which may be an older one.
-/

namespace SurvivalArena

open KeyedList

/-- The actors of a world, none before the first one. -/
def actorsOf (world : Option GameSnapshot) : Set EntityId :=
  { actor | actor ∈ world.elim [] actorIds }

/-- The lists of the result are the set differences between the actors of the
world published before and those of the new one. -/
def SnapshotApplyResult.ReportsTransitions (result : SnapshotApplyResult)
    (previous : Option GameSnapshot) (world : GameSnapshot) : Prop :=
  { actor | actor ∈ result.removedActors } =
      actorsOf previous \ actorsOf (some world) ∧
    { actor | actor ∈ result.reenteredActors } =
      actorsOf (some world) \ actorsOf previous

/-- A new set made of a base by removals and entries differs from an older set by
just these when the base is the older set. -/
theorem differences_eq_iff {α : Type} {base older removed entered : Set α}
    (hremoved : removed ⊆ base) (hentered : Disjoint entered base) :
    (removed = older \ (base \ removed ∪ entered) ∧
        entered = (base \ removed ∪ entered) \ older) ↔ base = older := by
  rw [Set.disjoint_left] at hentered
  constructor
  · rintro ⟨hleft, hcame⟩
    ext actor
    have hl : actor ∈ removed ↔ _ := Set.ext_iff.mp hleft actor
    have hc : actor ∈ entered ↔ _ := Set.ext_iff.mp hcame actor
    have hsub := @hremoved actor
    have hdis := @hentered actor
    simp only [Set.mem_sdiff, Set.mem_union] at hl hc
    tauto
  · rintro rfl
    constructor
    · ext actor
      have hsub := @hremoved actor
      have hdis := @hentered actor
      simp only [Set.mem_sdiff, Set.mem_union]
      tauto
    · ext actor
      have hdis := @hentered actor
      simp only [Set.mem_sdiff, Set.mem_union]
      tauto

theorem mem_actorIds {world : GameSnapshot} {actor : EntityId} :
    actor ∈ actorIds world ↔
      actor ∈ world.actors.map NetworkActorSnapshot.id :=
  (sortByKey_perm _).mem_iff

theorem mem_actorIds_dequantizeWorld {world : QuantizedWorld}
    {actor : EntityId} :
    actor ∈ actorIds (dequantizeWorld world) ↔
      actor ∈ world.actors.map QuantizedActorValue.id := by
  rw [mem_actorIds, dequantizeWorld, List.map_map]
  rfl

theorem ValidDelta.entered_not_removed {payload : SnapshotPayload}
    (h : ValidDelta payload) {actor : QuantizedActorValue}
    (hactor : actor ∈ payload.actorValues) :
    actor.id ∉ payload.removedActors := by
  intro hremoved
  have hnodup := (List.nodup_append.mp h.actorNodup).2.2
  apply hnodup actor.id.value
  · exact List.mem_append_left _ (List.mem_map.mpr ⟨actor, hactor, rfl⟩)
  · exact List.mem_map_of_mem hremoved
  · rfl

/-- The ids of an applied delta, from those of its base. -/
theorem applyDelta_actors {base applied : QuantizedWorld}
    {payload : SnapshotPayload} (hbase : base.Sorted)
    (hpayload : ValidDelta payload) (h : applyDelta base payload = .ok applied) :
    applied.Sorted ∧
      { actor | actor ∈ payload.removedActors } ⊆
        actorsOf (dequantizeWorld base) ∧
      Disjoint { actor | actor ∈ payload.actorValues.map QuantizedActorValue.id }
        (actorsOf (dequantizeWorld base)) ∧
      actorsOf (dequantizeWorld applied) =
        actorsOf (dequantizeWorld base) \ { actor | actor ∈ payload.removedActors } ∪
          { actor | actor ∈ payload.actorValues.map QuantizedActorValue.id } := by
  obtain ⟨-, ⟨kept, entered, hra, hea, hca⟩, keptLoot, enteredLoot, hrl, hel,
    hcl⟩ := applyDelta_eq_ok.mp h
  obtain ⟨hak, -, hmk⟩ := eraseAll_spec hbase.actors hra
  obtain ⟨hae, -, hme⟩ := insertAll_spec hak hea
  obtain ⟨haa, -, hma⟩ := modifyAll_spec changeActor_id hae hca
  obtain ⟨gak, -, -⟩ := eraseAll_spec hbase.loot hrl
  obtain ⟨gae, -, -⟩ := insertAll_spec gak hel
  obtain ⟨gaa, -, -⟩ := modifyAll_spec changeLootValue_id gae hcl
  have hpresent := eraseAll_present hbase.actors hra
  have hfresh := insertAll_fresh hak hea
  refine ⟨⟨haa, gaa⟩, ?_, ?_, ?_⟩
  · intro actor hactor
    obtain ⟨value, hvalue, rfl⟩ := hpresent actor hactor
    exact mem_actorIds_dequantizeWorld.mpr (List.mem_map_of_mem hvalue)
  · rw [Set.disjoint_left]
    intro actor hactor hold
    obtain ⟨value, hvalue, rfl⟩ := List.mem_map.mp hactor
    obtain ⟨before, hbefore, heq⟩ :=
      List.mem_map.mp (mem_actorIds_dequantizeWorld.mp hold)
    by_cases hremoved : before.id ∈ payload.removedActors
    · exact hpayload.entered_not_removed hvalue (heq ▸ hremoved)
    · exact hfresh value hvalue before
        ((hmk before).mpr ⟨hbefore, hremoved⟩) heq
  · ext actor
    simp only [actorsOf, Option.elim_some, Set.mem_union, Set.mem_sdiff,
      Set.mem_ofPred_eq, mem_actorIds_dequantizeWorld, List.mem_map]
    constructor
    · rintro ⟨value, hvalue, rfl⟩
      obtain ⟨before, hbefore, rfl⟩ := (hma value).mp hvalue
      rw [key_patch changeActor_id]
      rcases (hme before).mp hbefore with hnew | hold
      · exact Or.inr ⟨before, hnew, rfl⟩
      · exact Or.inl ⟨⟨before, ((hmk before).mp hold).1, rfl⟩,
          ((hmk before).mp hold).2⟩
    · rintro (⟨⟨before, hbefore, rfl⟩, hkept⟩ | ⟨before, hnew, rfl⟩)
      · exact ⟨_, (hma _).mpr ⟨before, (hme before).mpr
          (Or.inr ((hmk before).mpr ⟨hbefore, hkept⟩)), rfl⟩,
          key_patch changeActor_id _ _⟩
      · exact ⟨_, (hma _).mpr ⟨before, (hme before).mpr (Or.inl hnew), rfl⟩,
          key_patch changeActor_id _ _⟩

/-! ## Published worlds -/

theorem nodup_actorIds {world : GameSnapshot} :
    (actorIds world).Nodup ↔
      (world.actors.map NetworkActorSnapshot.id).Nodup :=
  (sortByKey_perm _).nodup_iff

theorem nodup_actorIds_of_ascending {world : GameSnapshot}
    (h : Ascending NetworkActorSnapshot.id world.actors) :
    (actorIds world).Nodup :=
  nodup_actorIds.mpr h.nodup_keys

/-- The actor ids of a dequantized world are those of the quantized one. -/
theorem QuantizedWorld.Sorted.nodup_actorIds {world : QuantizedWorld}
    (h : world.Sorted) : (actorIds (dequantizeWorld world)).Nodup := by
  rw [SurvivalArena.nodup_actorIds, dequantizeWorld, List.map_map]
  exact h.actors.nodup_keys

/-- The actor ids of a full state that the encoder accepts are distinct. -/
theorem encodeGameSnapshot_nodup {world : GameSnapshot} {bytes : Wire.Bytes}
    (h : encodeGameSnapshot world = .ok bytes) : (actorIds world).Nodup := by
  rw [encodeGameSnapshot] at h
  cases hcanonical : canonicalize world with
  | none =>
    rw [hcanonical] at h
    cases h
  | some canonical =>
    obtain ⟨rfl, hconsistent⟩ := canonicalize_eq_some.mp hcanonical
    have hsorted := hconsistent.actorOrder.nodup_keys
    rw [nodup_actorIds]
    exact ((sortByKey_perm world.actors).map _).nodup_iff.mp hsorted

theorem encodeSnapshotPayload_valid {payload : SnapshotPayload}
    {bytes : Wire.Bytes} (h : encodeSnapshotPayload payload = .ok bytes) :
    ValidPayload payload := by
  obtain ⟨u, hvalid, -⟩ := except_bind_eq_ok.mp h
  exact validatePayload_eq_ok.mp hvalid

/-- The actor ids of a world that is sent in full precision are distinct. -/
theorem encodeSnapshotPayload_nodup {payload : SnapshotPayload}
    {bytes : Wire.Bytes} (h : encodeSnapshotPayload payload = .ok bytes)
    (hkind : payload.header.kind = .fullState ∨
      payload.header.kind = .keyframe ∧
        payload.header.valueEncoding = .fullPrecision) :
    (actorIds payload.fullPrecision).Nodup := by
  cases encodeSnapshotPayload_valid h with
  | fullState _ hfull =>
    obtain ⟨-, -, hrest⟩ := except_bind_eq_ok.mp h
    obtain ⟨body, hbody, -⟩ := except_bind_eq_ok.mp hrest
    rw [writeBody, if_pos hfull] at hbody
    exact encodeGameSnapshot_nodup hbody
  | precisionKeyframe _ _ _ _ _ hbody =>
    exact nodup_actorIds_of_ascending hbody.actorOrder
  | quantizedKeyframe _ hkey hencoding =>
    rcases hkind with hfull | ⟨-, hprecision⟩
    · rw [hkey] at hfull
      exact absurd hfull (by decide)
    · exact absurd hprecision hencoding
  | delta _ hfull hkey =>
    exact hkind.elim (absurd · hfull) fun h => absurd h.1 hkey

namespace ClientSnapshotStream

/-- The actor ids of every stored world are distinct, those of a quantized one in
ascending order. -/
structure Tracks (stream : ClientSnapshotStream) : Prop where
  distinct : ∀ baseline ∈ stream.baselines, (actorIds baseline.world).Nodup
  sorted : ∀ baseline ∈ stream.baselines, ∀ world,
    baseline.quantized = some world → world.Sorted

theorem Tracks.quantizedBaseline {stream : ClientSnapshotStream}
    (h : stream.Tracks) {snapshotId : UInt32} {base : QuantizedWorld}
    (hbase : stream.quantizedBaseline snapshotId = some base) : base.Sorted := by
  obtain ⟨baseline, hfind, hquantized⟩ := Option.bind_eq_some_iff.mp hbase
  exact h.sorted baseline (List.mem_of_find?_eq_some hfind) base hquantized

theorem Tracks.latestWorld {stream : ClientSnapshotStream} (h : stream.Tracks) :
    (stream.latestWorld.elim [] actorIds).Nodup := by
  rw [ClientSnapshotStream.latestWorld]
  cases hlast : stream.baselines.getLast? with
  | none => exact List.nodup_nil
  | some baseline => exact h.distinct baseline (List.mem_of_getLast? hlast)

theorem publishedWorld_eq_some {outcome : Except Exception SnapshotApplyResult}
    {world : GameSnapshot} (h : publishedWorld outcome = some world) :
    ∃ result, outcome = .ok result ∧ result.world = some world := by
  cases outcome with
  | error e => cases h
  | ok result => exact ⟨result, rfl, h⟩

/-- The payload is the keyframe that the stream has asked for. -/
def Recovers (stream : ClientSnapshotStream) (payload : SnapshotPayload) : Prop :=
  stream.requestKeyframe = true ∧ payload.header.kind = .keyframe

/-- The transitions that the stream finds for a new world. -/
def transitions (stream : ClientSnapshotStream) (payload : SnapshotPayload)
    (world : GameSnapshot) : List EntityId × List EntityId :=
  if payload.header.kind = .fullState ∨ payload.header.kind = .keyframe then
    findActorTransitions stream.latestWorld world
  else
    (payload.removedActors, payload.actorValues.map QuantizedActorValue.id)

private theorem applyNew_publishes {stream : ClientSnapshotStream}
    {snapshotId : UInt32} {payload : SnapshotPayload}
    {result : SnapshotApplyResult} {world : GameSnapshot}
    (hidentity : snapshotId ≠ 0 ∧ payload.header.payloadSnapshotId = snapshotId)
    (hunseen : stream.hasSeen snapshotId = false)
    (happly : (applyNew { stream with highestSeenSnapshotId := some snapshotId }
      snapshotId payload).2 = .ok result) (hworld : result.world = some world) :
    ∃ quantized, stream.Source snapshotId payload quantized world ∧
      applyNew { stream with highestSeenSnapshotId := some snapshotId }
          snapshotId payload =
        publish { stream with highestSeenSnapshotId := some snapshotId }
          snapshotId payload.header.kind quantized world
          (stream.transitions payload world) := by
  unfold applyNew at happly ⊢
  split_ifs at happly ⊢ with hprecision hkey
  · obtain rfl := Except.ok.inj happly
    obtain rfl := Option.some.inj hworld
    refine ⟨none, .precision hprecision, ?_⟩
    rw [transitions, if_pos (hprecision.imp_right And.left)]
    rfl
  · obtain rfl := Except.ok.inj happly
    obtain rfl := Option.some.inj hworld
    have hencoding : payload.header.valueEncoding ≠ .fullPrecision :=
      fun h => hprecision (Or.inr ⟨hkey, h⟩)
    refine ⟨_, .keyframe hkey hencoding, ?_⟩
    rw [transitions, if_pos (Or.inr hkey)]
    rfl
  · have hkind : payload.header.kind ≠ .fullState ∧
        payload.header.kind ≠ .keyframe :=
      ⟨fun h => hprecision (Or.inl h), hkey⟩
    have hlookup : ({ stream with highestSeenSnapshotId := some snapshotId } :
        ClientSnapshotStream).quantizedBaseline payload.header.baseSnapshotId =
        stream.quantizedBaseline payload.header.baseSnapshotId := rfl
    simp only [hlookup] at happly ⊢
    cases hbase : stream.quantizedBaseline payload.header.baseSnapshotId with
    | none =>
      simp only [hbase] at happly
      obtain rfl := Except.ok.inj happly
      cases hworld
    | some base =>
      simp only [hbase] at happly ⊢
      cases happlied : applyDelta base payload with
      | error e =>
        rw [happlied] at happly
        cases happly
      | ok applied =>
        rw [happlied, attempt_ok] at happly
        rw [attempt_ok]
        obtain rfl := Except.ok.inj happly
        obtain rfl := Option.some.inj hworld
        have hmerges : stream.Merges snapshotId payload base :=
          ⟨hidentity, hunseen, hkind, hbase, applied, happlied⟩
        refine ⟨_, .delta base applied hmerges happlied, ?_⟩
        rw [transitions, if_neg (not_or.mpr hkind)]

/-- An application that publishes a world took it from an accepted payload, with
the transitions found for it. -/
theorem apply_publishes {stream : ClientSnapshotStream} {snapshotId : UInt32}
    {payload : SnapshotPayload} {result : SnapshotApplyResult}
    {world : GameSnapshot}
    (happly : (stream.apply snapshotId payload).2 = .ok result)
    (hworld : result.world = some world) :
    (∃ bytes, encodeSnapshotPayload payload = .ok bytes) ∧
      ∃ quantized, stream.Source snapshotId payload quantized world ∧
        stream.apply snapshotId payload =
          publish { stream with highestSeenSnapshotId := some snapshotId }
            snapshotId payload.header.kind quantized world
            (stream.transitions payload world) := by
  unfold apply at happly ⊢
  split at happly
  · cases happly
  · rename_i hidentity
    rw [if_neg hidentity]
    obtain ⟨hpositive, hmatch⟩ := not_or.mp hidentity
    cases hencode : encodeSnapshotPayload payload with
    | error e =>
      rw [hencode] at happly
      cases happly
    | ok bytes =>
      rw [hencode, attempt_ok] at happly
      rw [attempt_ok]
      split at happly
      · obtain rfl := Except.ok.inj happly
        cases hworld
      · rename_i hseen
        rw [if_neg hseen]
        exact ⟨⟨bytes, rfl⟩, applyNew_publishes ⟨hpositive, not_not.mp hmatch⟩
          (Bool.eq_false_iff.mpr hseen) happly hworld⟩

/-! ## What a stream keeps -/

theorem mem_store {stream : ClientSnapshotStream} {baseline stored : ClientBaseline}
    (h : stored ∈ (stream.store baseline).baselines) :
    stored ∈ stream.baselines ∨ stored = baseline := by
  have hmem : stored ∈ stream.baselines ++ [baseline] := List.mem_of_mem_drop h
  rwa [List.mem_append, List.mem_singleton] at hmem

/-- What is stored last is the latest world. -/
theorem latestWorld_store (stream : ClientSnapshotStream)
    (baseline : ClientBaseline) :
    (stream.store baseline).latestWorld = some baseline.world := by
  have hpositive := stream.capacity.1
  have hdrop : (stream.store baseline).baselines.getLast? = some baseline := by
    change ((stream.baselines ++ [baseline]).drop _).getLast? = _
    rw [List.getLast?_drop, if_neg, List.getLast?_concat]
    rw [List.length_append, List.length_singleton]
    omega
  rw [latestWorld, hdrop]
  rfl

/-- A world with its source is one the stream can keep. -/
theorem Source.tracks {stream : ClientSnapshotStream} {snapshotId : UInt32}
    {payload : SnapshotPayload} {bytes : Wire.Bytes}
    (hencode : encodeSnapshotPayload payload = .ok bytes) (h : stream.Tracks)
    {quantized : Option QuantizedWorld} {world : GameSnapshot}
    (hsource : stream.Source snapshotId payload quantized world) :
    (actorIds world).Nodup ∧ ∀ w, quantized = some w → w.Sorted := by
  have hvalid := encodeSnapshotPayload_valid hencode
  cases hsource with
  | precision hkind =>
    exact ⟨encodeSnapshotPayload_nodup hencode hkind, by simp⟩
  | keyframe hkey hencoding =>
    have hsorted := (hvalid.keyframe hkey hencoding).sorted
    exact ⟨hsorted.nodup_actorIds, by simpa using hsorted⟩
  | delta base applied hmerges happlied =>
    have hbase := h.quantizedBaseline hmerges.baseline
    have hdelta := hvalid.deltaBody hmerges.kind.1 hmerges.kind.2
    have hsorted := (applyDelta_actors hbase hdelta happlied).1
    exact ⟨hsorted.nodup_actorIds, by simpa using hsorted⟩

theorem apply_tracks {stream : ClientSnapshotStream} (h : stream.Tracks)
    (snapshotId : UInt32) (payload : SnapshotPayload) :
    (stream.apply snapshotId payload).1.Tracks := by
  generalize hstep : stream.apply snapshotId payload = step
  cases hstep ▸ stream.apply_step snapshotId payload with
  | silent next outcome _ hbaselines =>
    constructor
    · rw [hbaselines]
      exact h.distinct
    · rw [hbaselines]
      exact h.sorted
  | published next outcome quantized world hsource hworld hbaselines =>
    obtain ⟨result, hresult, hpublished⟩ := publishedWorld_eq_some hworld
    obtain ⟨⟨bytes, hencode⟩, -⟩ :=
      apply_publishes (by rw [hstep]; exact hresult) hpublished
    obtain ⟨hdistinct, hsorted⟩ := hsource.tracks hencode h
    constructor
    · intro stored hstored
      rw [hbaselines] at hstored
      rcases mem_store hstored with hold | rfl
      · exact h.distinct stored hold
      · exact hdistinct
    · intro stored hstored
      rw [hbaselines] at hstored
      rcases mem_store hstored with hold | rfl
      · exact h.sorted stored hold
      · exact hsorted

/-- The latest world is the one published last. -/
theorem apply_latestWorld (stream : ClientSnapshotStream) (snapshotId : UInt32)
    (payload : SnapshotPayload) :
    (stream.apply snapshotId payload).1.latestWorld =
      (publishedWorld (stream.apply snapshotId payload).2).or
        stream.latestWorld := by
  generalize hstep : stream.apply snapshotId payload = step
  cases hstep ▸ stream.apply_step snapshotId payload with
  | silent next outcome hnone hbaselines =>
    rw [hnone, Option.none_or, latestWorld, hbaselines]
    rfl
  | published next outcome quantized world hsource hworld hbaselines =>
    have hlatest := stream.latestWorld_store { snapshotId, quantized, world }
    rw [hworld, Option.some_or, latestWorld, hbaselines]
    exact hlatest

theorem run_latestWorld (stream : ClientSnapshotStream)
    (steps : List (UInt32 × SnapshotPayload)) :
    (stream.run steps).1.latestWorld =
      (stream.run steps).2.getLast?.or stream.latestWorld := by
  induction steps generalizing stream with
  | nil => rfl
  | cons step steps ih =>
    rw [run, ih, apply_latestWorld, List.getLast?_append, Option.or_assoc]
    cases publishedWorld (stream.apply step.1 step.2).2 <;> rfl

theorem run_tracks {stream : ClientSnapshotStream} (h : stream.Tracks)
    (steps : List (UInt32 × SnapshotPayload)) :
    (stream.run steps).1.Tracks := by
  induction steps generalizing stream with
  | nil => exact h
  | cons step steps ih => exact ih (apply_tracks h step.1 step.2)

/-! ## What is reported -/

theorem findActorTransitions_eq {previous : Option GameSnapshot}
    {current : GameSnapshot} (hprevious : (previous.elim [] actorIds).Nodup)
    (hcurrent : (actorIds current).Nodup) :
    { actor | actor ∈ (findActorTransitions previous current).1 } =
        actorsOf previous \ actorsOf (some current) ∧
      { actor | actor ∈ (findActorTransitions previous current).2 } =
        actorsOf (some current) \ actorsOf previous := by
  constructor
  · ext actor
    exact hprevious.mem_sdiff_iff
  · ext actor
    exact hcurrent.mem_sdiff_iff

/-- One application reports the transitions since the latest world exactly unless
it merges a delta into a base with other actors. -/
theorem apply_reports {stream : ClientSnapshotStream} (h : stream.Tracks)
    {snapshotId : UInt32} {payload : SnapshotPayload}
    {result : SnapshotApplyResult} {world : GameSnapshot}
    (happly : (stream.apply snapshotId payload).2 = .ok result)
    (hworld : result.world = some world) (hrecovers : ¬stream.Recovers payload) :
    result.ReportsTransitions stream.latestWorld world ↔
      ∀ base, stream.Merges snapshotId payload base →
        actorsOf (some (dequantizeWorld base)) = actorsOf stream.latestWorld := by
  obtain ⟨⟨bytes, hencode⟩, quantized, hsource, hpublish⟩ :=
    apply_publishes happly hworld
  have hresult : result.removedActors = (stream.transitions payload world).1 ∧
      result.reenteredActors = (stream.transitions payload world).2 := by
    rw [hpublish] at happly
    obtain rfl := Except.ok.inj happly
    refine ⟨rfl, if_neg ?_⟩
    rw [Bool.and_eq_true, beq_iff_eq]
    exact hrecovers
  rw [SnapshotApplyResult.ReportsTransitions, hresult.1, hresult.2, transitions]
  have hframe : (payload.header.kind = .fullState ∨
        payload.header.kind = .keyframe) →
      ∀ base, ¬stream.Merges snapshotId payload base := fun hkind base hmerges =>
    hkind.elim hmerges.kind.1 hmerges.kind.2
  have htransitions := findActorTransitions_eq h.latestWorld
    (hsource.tracks hencode h).1
  cases hsource with
  | precision hkind =>
    have hkind' := hkind.imp_right And.left
    simp only [if_pos hkind', htransitions, hframe hkind', and_self,
      false_implies, implies_true]
  | keyframe hkey _ =>
    simp only [if_pos (Or.inr hkey), htransitions, hframe (Or.inr hkey), and_self,
      false_implies, implies_true]
  | delta base applied hmerges happlied =>
    have hdelta := (encodeSnapshotPayload_valid hencode).deltaBody
      hmerges.kind.1 hmerges.kind.2
    obtain ⟨-, hremoved, hentered, hactors⟩ :=
      applyDelta_actors (h.quantizedBaseline hmerges.baseline) hdelta happlied
    rw [if_neg (not_or.mpr hmerges.kind), hactors,
      differences_eq_iff hremoved hentered]
    constructor
    · intro heq other hother
      have hsame := hother.baseline.symm.trans hmerges.baseline
      rw [Option.some.inj hsame]
      exact heq
    · exact fun hall => hall base hmerges

theorem tracks_create {maximumBaselines : Nat} {stream : ClientSnapshotStream}
    (hcreate : create maximumBaselines = .ok stream) : stream.Tracks := by
  constructor <;> simp [create_baselines hcreate]

/-- After any sequence of payloads, the next world that is not a recovery keyframe
comes with exactly the transitions since the world published last, unless it is
a delta whose base has other actors than that world. -/
theorem create_run_reports (maximumBaselines : Nat) (stream : ClientSnapshotStream)
    (hcreate : create maximumBaselines = .ok stream)
    (steps : List (UInt32 × SnapshotPayload)) (snapshotId : UInt32)
    (payload : SnapshotPayload) (result : SnapshotApplyResult)
    (world : GameSnapshot)
    (happly : ((stream.run steps).1.apply snapshotId payload).2 = .ok result)
    (hworld : result.world = some world)
    (hrecovers : ¬(stream.run steps).1.Recovers payload) :
    result.ReportsTransitions (stream.run steps).2.getLast? world ↔
      ∀ base, (stream.run steps).1.Merges snapshotId payload base →
        actorsOf (some (dequantizeWorld base)) =
          actorsOf (stream.run steps).2.getLast? := by
  have hlatest : (stream.run steps).1.latestWorld =
      (stream.run steps).2.getLast? := by
    rw [run_latestWorld, latestWorld, create_baselines hcreate]
    exact Option.or_none
  rw [← hlatest]
  exact apply_reports (run_tracks (tracks_create hcreate) steps) happly hworld
    hrecovers

private theorem eq_ok_of_toOption {ε α : Type} {x : Except ε α} {a : α}
    (h : x.toOption = some a) : x = .ok a := by
  cases x with
  | error e => cases h
  | ok b => exact congrArg Except.ok (Option.some.inj h)

/-- A third contender enters the running world, and the next delta still names the
world without it as its base. -/
def enteringDelta : SnapshotPayload where
  header := { kind := .delta, valueEncoding := .quantized,
              baseSnapshotId := 1, payloadSnapshotId := 2 }
  actorValues := [{ id := ⟨3⟩ }]

def staleDelta : SnapshotPayload where
  header := { kind := .delta, valueEncoding := .quantized,
              baseSnapshotId := 1, payloadSnapshotId := 3 }

/-- The third contender leaves without being reported. -/
theorem staleDelta_reports_nothing :
    ¬∀ (maximumBaselines : Nat) (stream : ClientSnapshotStream),
      create maximumBaselines = .ok stream →
      ∀ (steps : List (UInt32 × SnapshotPayload)) (snapshotId : UInt32)
        (payload : SnapshotPayload) (result : SnapshotApplyResult)
        (world : GameSnapshot),
        ((stream.run steps).1.apply snapshotId payload).2 = .ok result →
        result.world = some world →
        ¬(stream.run steps).1.Recovers payload →
        result.ReportsTransitions (stream.run steps).2.getLast? world := by
  intro h
  have hfacts : (((emptyStream.run [(1, runningKeyframe), (2, enteringDelta)]).1.apply
      3 staleDelta).2.toOption.map fun result =>
        (result.removedActors, result.world.map actorIds)) =
      some ([], some [⟨1⟩, ⟨2⟩]) := by
    decide +kernel
  have hprevious : (emptyStream.run [(1, runningKeyframe),
      (2, enteringDelta)]).2.getLast?.map actorIds = some [⟨1⟩, ⟨2⟩, ⟨3⟩] := by
    decide +kernel
  obtain ⟨result, hresult, hreported⟩ := Option.map_eq_some_iff.mp hfacts
  obtain ⟨hremoved, hactors⟩ := Prod.mk.inj hreported
  obtain ⟨world, hworld, hafter⟩ := Option.map_eq_some_iff.mp hactors
  obtain ⟨previous, hlast, hbefore⟩ := Option.map_eq_some_iff.mp hprevious
  have hreports := h 32 emptyStream rfl _ 3 staleDelta result world
    (eq_ok_of_toOption hresult) hworld
    fun hrecovers => absurd hrecovers.2 (by decide)
  have hleft : (⟨3⟩ : EntityId) ∈ result.removedActors := by
    apply (Set.ext_iff.mp hreports.1 ⟨3⟩).mpr
    rw [hlast]
    simp only [actorsOf, Option.elim_some, hbefore, hafter]
    decide
  rw [hremoved] at hleft
  cases hleft

theorem create_run_reports_enteringDelta :
    ∃ (result : SnapshotApplyResult) (world : GameSnapshot),
      result.world = some world ∧
        (result.ReportsTransitions
            (emptyStream.run [(1, runningKeyframe)]).2.getLast? world ↔
          ∀ base, (emptyStream.run [(1, runningKeyframe)]).1.Merges 2
              enteringDelta base →
            actorsOf (some (dequantizeWorld base)) =
              actorsOf (emptyStream.run [(1, runningKeyframe)]).2.getLast?) := by
  have hfacts : (((emptyStream.run [(1, runningKeyframe)]).1.apply 2
      enteringDelta).2.toOption.map fun result => result.world.isSome) =
      some true := by
    decide +kernel
  obtain ⟨result, hresult, hsome⟩ := Option.map_eq_some_iff.mp hfacts
  obtain ⟨world, hworld⟩ := Option.isSome_iff_exists.mp hsome
  exact ⟨result, world, hworld, create_run_reports 32 emptyStream rfl
    [(1, runningKeyframe)] 2 enteringDelta result world
    (eq_ok_of_toOption hresult) hworld
    fun hrecovers => absurd hrecovers.2 (by decide)⟩

end ClientSnapshotStream

end SurvivalArena
