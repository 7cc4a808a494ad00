import SurvivalArena.Replication.DeltaInverse
import SurvivalArena.Replication.SnapshotReplicator

/-!
# What the replicator's operations can do

Every operation leaves the replicator as it is or replaces the record of one
recipient.  A build in delta mode stores the recipient's view as a baseline and
sends a keyframe of it or its difference from the acknowledged baseline.
-/

namespace SurvivalArena

open KeyedList Wire

namespace SnapshotReplicator

/-- The parts of a replicator that its construction fixes. -/
structure SameSetup (before after : SnapshotReplicator) : Prop where
  config : after.config = before.config
  bounds : after.bounds = before.bounds
  radiusMaximum : after.radiusMaximum = before.radiusMaximum

/-- An operation on one recipient, seen from another. -/
structure KeepsOthers (player : PlayerId) (before after : SnapshotReplicator) :
    Prop extends SameSetup before after where
  others : ∀ other, other ≠ player →
    after.recipients[other]? = before.recipients[other]?

theorem keepsOthers_refl (player : PlayerId)
    (replicator : SnapshotReplicator) :
    KeepsOthers player replicator replicator :=
  ⟨⟨rfl, rfl, rfl⟩, fun _ _ => rfl⟩

theorem keepsOthers_setRecipient (replicator : SnapshotReplicator)
    (player : PlayerId) (recipient : Recipient) :
    KeepsOthers player replicator
      (replicator.setRecipient player recipient) := by
  refine ⟨⟨rfl, rfl, rfl⟩, fun other hne => ?_⟩
  rw [setRecipient, Std.ExtTreeMap.getElem?_insert]
  simp [hne.symm]

@[simp]
theorem setRecipient_recipients (replicator : SnapshotReplicator)
    (player : PlayerId) (recipient : Recipient) :
    (replicator.setRecipient player recipient).recipients[player]? =
      some recipient := by
  simp [setRecipient]

theorem recipientFor_eq_ok {replicator : SnapshotReplicator}
    {player : PlayerId} {recipient : Recipient} :
    replicator.recipientFor player = .ok recipient ↔
      replicator.recipients[player]? = some recipient := by
  unfold recipientFor
  cases replicator.recipients[player]? <;> simp

theorem keepsOthers_commitGrid (replicator : SnapshotReplicator)
    (player : PlayerId) (snapshotId : UInt32) (world : GameSnapshot)
    (candidate : Option (InterestGrid Float32)) (recipient : Recipient) :
    KeepsOthers player replicator
      ((replicator.commitGrid snapshotId world candidate).setRecipient player
        recipient) := by
  cases candidate with
  | none => exact keepsOthers_setRecipient replicator player recipient
  | some grid =>
    have h := keepsOthers_setRecipient { replicator with
      grid, gridSnapshotId := some snapshotId, gridWorld := some world }
      player recipient
    exact ⟨⟨h.config, h.bounds, h.radiusMaximum⟩, h.others⟩

/-! ## Operations other than builds -/

/-- Registering a player that is not registered adds its record only. -/
theorem registerRecipient_keepsOthers (replicator : SnapshotReplicator)
    (player : PlayerId) (controlledActor : EntityId) :
    KeepsOthers player replicator
      (replicator.registerRecipient player controlledActor).1 := by
  unfold registerRecipient
  split
  · exact keepsOthers_refl player replicator
  · exact keepsOthers_setRecipient replicator player _

theorem registerRecipient_registered {replicator : SnapshotReplicator}
    {player : PlayerId} (controlledActor : EntityId) {recipient : Recipient}
    (h : replicator.recipients[player]? = some recipient) :
    (replicator.registerRecipient player controlledActor).1 = replicator := by
  have hcontains : replicator.recipients.contains player = true := by
    rw [Std.ExtTreeMap.contains_eq_isSome_getElem?, h]
    rfl
  unfold registerRecipient
  rw [if_pos (by rw [hcontains, Bool.true_or])]

/-- A recipient that is registered starts without baselines. -/
theorem registerRecipient_of_ok {replicator : SnapshotReplicator}
    {player : PlayerId} {controlledActor : EntityId}
    (h : (replicator.registerRecipient player controlledActor).2 = .ok ()) :
    (replicator.registerRecipient player controlledActor).1 =
      replicator.setRecipient player { controlledActor } := by
  unfold registerRecipient at h ⊢
  split at h
  · cases h
  · rename_i hfresh
    rw [if_neg hfresh]

theorem create_config {vertices : List (Vec2 Float32)}
    {config : ReplicationConfig} {replicator : SnapshotReplicator}
    (h : create vertices config = .ok replicator) :
    replicator.config = config := by
  unfold create at h
  obtain ⟨-, -, hbounds⟩ := except_bind_eq_ok.mp h
  obtain ⟨bounds, -, hgrid⟩ := except_bind_eq_ok.mp hbounds
  obtain ⟨grid, -, hcreated⟩ := except_bind_eq_ok.mp hgrid
  obtain rfl := Except.ok.inj hcreated
  rfl

theorem removeRecipient_keepsOthers (replicator : SnapshotReplicator)
    (player : PlayerId) :
    KeepsOthers player replicator (replicator.removeRecipient player) := by
  refine ⟨⟨rfl, rfl, rfl⟩, fun other hne => ?_⟩
  rw [removeRecipient, Std.ExtTreeMap.getElem?_erase]
  simp [hne.symm]

/-- What an acknowledgement or a keyframe request does to a recipient. -/
structure Trims (before after : Recipient) : Prop where
  baselines : ∀ baseline ∈ after.baselines, baseline ∈ before.baselines
  watermark : after.issuedHighWatermark = before.issuedHighWatermark

/-- The replicator as it was, or with one recipient's baselines trimmed. -/
inductive Trimmed (replicator : SnapshotReplicator) (player : PlayerId) :
    SnapshotReplicator → Prop
  | same : Trimmed replicator player replicator
  | trimmed (before after : Recipient)
      (found : replicator.recipients[player]? = some before)
      (trims : Trims before after) :
    Trimmed replicator player (replicator.setRecipient player after)

theorem acceptAcknowledgement_trimmed (replicator : SnapshotReplicator)
    (player : PlayerId) (snapshotId : UInt32) :
    Trimmed replicator player
      (replicator.acceptAcknowledgement player snapshotId).1 := by
  unfold acceptAcknowledgement
  refine attempt_induct (P := fun r => Trimmed replicator player r.1) ?_ ?_
  · exact fun _ _ => .same
  · intro recipient hfound
    split
    · exact .same
    · split
      · refine .trimmed recipient _ (recipientFor_eq_ok.mp hfound) ⟨?_, rfl⟩
        intro baseline hmem
        exact (List.dropWhile_sublist _).mem hmem
      · exact .same

theorem requestKeyframe_trimmed (replicator : SnapshotReplicator)
    (player : PlayerId) :
    Trimmed replicator player (replicator.requestKeyframe player).1 := by
  unfold requestKeyframe
  refine attempt_induct (P := fun r => Trimmed replicator player r.1) ?_ ?_
  · exact fun _ _ => .same
  · intro recipient hfound
    exact .trimmed recipient _ (recipientFor_eq_ok.mp hfound)
      ⟨fun _ hmem => hmem, rfl⟩

theorem Trimmed.keepsOthers {replicator after : SnapshotReplicator}
    {player : PlayerId} (h : Trimmed replicator player after) :
    KeepsOthers player replicator after := by
  cases h with
  | same => exact keepsOthers_refl player replicator
  | trimmed before recipient => exact keepsOthers_setRecipient _ _ _

/-! ## Builds -/

theorem mem_evictOne {maximum : Nat} {acknowledged : UInt32}
    {baselines : List ServerBaseline} {baseline : ServerBaseline}
    (h : baseline ∈ Recipient.evictOne maximum acknowledged baselines) :
    baseline ∈ baselines := by
  cases baselines with
  | nil => exact h
  | cons front rest =>
    rw [Recipient.evictOne] at h
    split at h
    · rcases List.mem_cons.mp h with rfl | htail
      · exact List.mem_cons_self
      · exact List.mem_cons_of_mem front (List.mem_of_mem_tail htail)
    · exact List.mem_cons_of_mem front h

theorem mem_evict {maximum excess : Nat} {acknowledged : UInt32}
    {baselines : List ServerBaseline} {baseline : ServerBaseline}
    (h : baseline ∈
      Recipient.evict maximum acknowledged excess baselines) :
    baseline ∈ baselines := by
  induction excess generalizing baselines with
  | zero => exact h
  | succ excess ih => exact mem_evictOne (ih h)

/-- A stored baseline is an old one or the new one. -/
theorem mem_storeBaseline {recipient : Recipient} {maximum : Nat}
    {snapshotId : UInt32} {view : QuantizedWorld} {baseline : ServerBaseline}
    (h : baseline ∈ recipient.storeBaseline maximum snapshotId view) :
    baseline ∈ recipient.baselines ∨ baseline = ⟨snapshotId, view⟩ := by
  have hmem := mem_evict h
  rcases List.mem_append.mp hmem with hold | hnew
  · exact Or.inl hold
  · exact Or.inr (List.mem_singleton.mp hnew)

/-- What a build in delta mode sends for a recipient and its view. -/
inductive DeltaPayload (recipient : Recipient) (snapshotId : UInt32)
    (view : QuantizedWorld) : SnapshotPayload → Prop
  | keyframe : DeltaPayload recipient snapshotId view
      (buildQuantizedKeyframe snapshotId view)
  | delta (base : ServerBaseline) (payload : SnapshotPayload)
      (stored : base ∈ recipient.baselines)
      (built : buildDeltaPayload base.snapshotId snapshotId base.view view =
        .ok payload) :
    DeltaPayload recipient snapshotId view payload

theorem chooseDelta_payload {replicator : SnapshotReplicator}
    {recipient : Recipient} {snapshotId : UInt32} {view : QuantizedWorld}
    {choice : PayloadChoice}
    (h : replicator.chooseDelta recipient snapshotId view = .ok choice) :
    choice.view = some view ∧
      DeltaPayload recipient snapshotId view choice.payload := by
  unfold chooseDelta at h
  cases hbase : replicator.deltaBase recipient with
  | none =>
    simp only [hbase] at h
    obtain rfl := Except.ok.inj h
    exact ⟨rfl, .keyframe⟩
  | some base =>
    simp only [hbase] at h
    obtain ⟨payload, hbuilt, hchoice⟩ := except_bind_eq_ok.mp h
    obtain rfl := Except.ok.inj hchoice
    have hfind : recipient.findBaseline recipient.acknowledgedSnapshotId =
        some base := by
      simp only [deltaBase] at hbase
      split at hbase
      · cases hbase
      · exact hbase
    have hid : base.snapshotId = recipient.acknowledgedSnapshotId := by
      simpa using List.find?_some hfind
    rw [← hid] at hbuilt
    exact ⟨rfl, .delta base payload (List.mem_of_find?_eq_some hfind) hbuilt⟩

/-- A successful preparation in delta mode. -/
structure PreparedDelta (replicator : SnapshotReplicator)
    (recipient : Recipient) (snapshotId : UInt32) (prepared : PreparedBuild)
    (view : QuantizedWorld) : Prop where
  quantized : quantizeView prepared.filtered replicator.bounds.minimum
    replicator.bounds.maximum replicator.radiusMaximum = .ok view
  sorted : view.Sorted
  stored : prepared.view = some view
  payload : DeltaPayload recipient snapshotId view prepared.build.payload
  encoded : encodeSnapshotPayload prepared.build.payload =
    .ok prepared.build.encodedPayload

theorem prepare_delta {replicator : SnapshotReplicator}
    (hmode : replicator.config.mode = .interestDelta) {recipient : Recipient}
    {snapshotId : UInt32} {world : GameSnapshot} {prepared : PreparedBuild}
    (h : replicator.prepare recipient snapshotId world = .ok prepared) :
    ∃ view, PreparedDelta replicator recipient snapshotId prepared view := by
  unfold prepare at h
  obtain ⟨-, hactor⟩ := throwIf_bind_eq_ok.mp h
  obtain ⟨controlled, -, hgrid⟩ := except_bind_eq_ok.mp hactor
  obtain ⟨candidate, -, hquery⟩ := except_bind_eq_ok.mp hgrid
  obtain ⟨visible, hvisible, hown⟩ := except_bind_eq_ok.mp hquery
  obtain ⟨-, hfilter⟩ := throwIf_bind_eq_ok.mp hown
  obtain ⟨filtered, hfiltered, hchoose⟩ := except_bind_eq_ok.mp hfilter
  obtain ⟨choice, hchoice, hencode⟩ := except_bind_eq_ok.mp hchoose
  obtain ⟨bytes, hencoded, hprepared⟩ := except_bind_eq_ok.mp hencode
  obtain rfl := Except.ok.inj hprepared
  have hprecision : replicator.config.mode ≠ .interestFullPrecision := by
    rw [hmode]
    decide
  rw [choosePayload, if_neg hprecision] at hchoice
  obtain ⟨view, hview, hchosen⟩ := except_bind_eq_ok.mp hchoice
  rw [if_pos hmode] at hchosen
  obtain ⟨hstored, hpayload⟩ := chooseDelta_payload hchosen
  have hsorted := quantizeView_sorted (updateVisibility_ascending hvisible)
    hfiltered hview
  exact ⟨view, hview, hsorted, hstored, hpayload, hencoded⟩

/-- A build in delta mode throws and changes nothing, or stores the view it
sends. -/
inductive BuildStep (replicator : SnapshotReplicator) (player : PlayerId)
    (snapshotId : UInt32) (world : GameSnapshot) :
    SnapshotReplicator × Except Exception ReplicationBuild → Prop
  | thrown (e : Exception) :
    BuildStep replicator player snapshotId world (replicator, .error e)
  | built (recipient : Recipient) (prepared : PreparedBuild)
      (view : QuantizedWorld)
      (found : replicator.recipients[player]? = some recipient)
      (increasing : recipient.issuedHighWatermark < snapshotId)
      (prepares : replicator.prepare recipient snapshotId world = .ok prepared)
      (delta : PreparedDelta replicator recipient snapshotId prepared view) :
    BuildStep replicator player snapshotId world
      ((replicator.commitGrid snapshotId world
          prepared.candidateGrid).setRecipient player
        (replicator.builtRecipient recipient snapshotId prepared),
       .ok prepared.build)

theorem build_step {replicator : SnapshotReplicator}
    (hmode : replicator.config.mode = .interestDelta) (player : PlayerId)
    (snapshotId : UInt32) (world : GameSnapshot) :
    BuildStep replicator player snapshotId world
      (replicator.build player snapshotId world) := by
  unfold build
  refine attempt_induct
    (P := BuildStep replicator player snapshotId world) ?_ ?_
  · exact fun e _ => .thrown e
  · intro recipient hfound
    split
    · exact .thrown _
    · rename_i hidentity
      have hincreasing : recipient.issuedHighWatermark < snapshotId :=
        not_le.mp fun hle => hidentity (Or.inr hle)
      have hfull : replicator.config.mode ≠ .fullState := by
        rw [hmode]
        decide
      rw [if_neg hfull]
      refine attempt_induct
        (P := BuildStep replicator player snapshotId world) ?_ ?_
      · exact fun e _ => .thrown e
      · intro prepared hprepares
        obtain ⟨view, hdelta⟩ := prepare_delta hmode hprepares
        exact .built recipient prepared view (recipientFor_eq_ok.mp hfound)
          hincreasing hprepares hdelta

theorem BuildStep.keepsOthers {replicator : SnapshotReplicator}
    {player : PlayerId} {snapshotId : UInt32} {world : GameSnapshot}
    {step : SnapshotReplicator × Except Exception ReplicationBuild}
    (h : BuildStep replicator player snapshotId world step) :
    KeepsOthers player replicator step.1 := by
  cases h with
  | thrown e => exact keepsOthers_refl player replicator
  | built => exact keepsOthers_commitGrid _ _ _ _ _ _

end SnapshotReplicator

end SurvivalArena
