import SurvivalArena.Framework.OrderedMap
import SurvivalArena.Framework.Spacing
import SurvivalArena.Replication.Agreement

/-!
# Baselines over runs of the replicator

Whatever calls a replicator receives, every recipient's baselines stay ordered, between
the acknowledged identifier and the last issued one, the acknowledged baseline is kept,
and keyframes come at the configured interval.  A build that throws changes nothing.
-/

namespace SurvivalArena

open OrderedMap

/-- A call of the replicator. -/
inductive ReplicatorCall where
  | registerRecipient (player : PlayerId) (controlledActor : EntityId)
  | removeRecipient (player : PlayerId)
  | acceptAcknowledgement (player : PlayerId) (snapshotId : UInt32)
  | requestKeyframe (player : PlayerId)
  | build (player : PlayerId) (snapshotId : UInt32) (world : GameSnapshot)

inductive ReplicatorReply where
  | done (outcome : Except Exception Unit)
  | accepted (outcome : Except Exception Bool)
  | built (outcome : Except Exception ReplicationBuild)

/-- The builds of one player that succeeded. -/
def ReplicatorReply.buildFor (player : PlayerId) :
    ReplicatorCall → ReplicatorReply → Option ReplicationBuild
  | .build recipient _ _, .built outcome =>
    if recipient = player then outcome.toOption else none
  | _, _ => none

namespace SnapshotReplicator

def call (replicator : SnapshotReplicator) :
    ReplicatorCall → SnapshotReplicator × ReplicatorReply
  | .registerRecipient player controlledActor =>
    let (after, outcome) := replicator.registerRecipient player controlledActor
    (after, .done outcome)
  | .removeRecipient player => (replicator.removeRecipient player, .done (.ok ()))
  | .acceptAcknowledgement player snapshotId =>
    let (after, outcome) := replicator.acceptAcknowledgement player snapshotId
    (after, .accepted outcome)
  | .requestKeyframe player =>
    let (after, outcome) := replicator.requestKeyframe player
    (after, .done outcome)
  | .build player snapshotId world =>
    let (after, outcome) := replicator.build player snapshotId world
    (after, .built outcome)

/-- What a sequence of calls built for a player. -/
def builds (player : PlayerId) (replicator : SnapshotReplicator) :
    List ReplicatorCall → List ReplicationBuild
  | [] => []
  | event :: calls =>
    (ReplicatorReply.buildFor player event (replicator.call event).2).toList ++
      builds player (replicator.call event).1 calls

/-! ## Builds that throw -/

theorem build_unchanged {replicator : SnapshotReplicator} {player : PlayerId}
    {snapshotId : UInt32} {world : GameSnapshot} {e : Exception}
    (h : (replicator.build player snapshotId world).2 = .error e) :
    (replicator.build player snapshotId world).1 = replicator := by
  revert h
  unfold build
  refine attempt_induct (P := fun r => r.2 = .error e → r.1 = replicator)
    (fun _ _ _ => rfl) ?_
  intro recipient _
  split
  · exact fun _ => rfl
  · split
    · unfold buildFullState
      refine attempt_induct (P := fun r => r.2 = .error e → r.1 = replicator)
        (fun _ _ _ => rfl) ?_
      intro bytes _ hthrown
      cases hthrown
    · refine attempt_induct (P := fun r => r.2 = .error e → r.1 = replicator)
        (fun _ _ _ => rfl) ?_
      intro prepared _ hthrown
      cases hthrown

/-- After a build that threw every later call returns what it would have returned
without it. -/
theorem build_atomic (replicator : SnapshotReplicator) (player : PlayerId)
    (snapshotId : UInt32) (world : GameSnapshot) (e : Exception)
    (h : (replicator.build player snapshotId world).2 = .error e) :
    (replicator.build player snapshotId world).1 = replicator ∧
      ∀ later : List ReplicatorCall,
        Machine.replies call replicator (.build player snapshotId world :: later) =
          .built (.error e) :: Machine.replies call replicator later := by
  have hunchanged := build_unchanged h
  refine ⟨hunchanged, fun later => ?_⟩
  have hcall : replicator.call (.build player snapshotId world) =
      (replicator, .built (.error e)) := by
    rw [← h]
    exact congrArg (·, _) hunchanged
  rw [Machine.replies, hcall]

/-- A world without the player's actor makes the build throw. -/
theorem build_atomic_duel :
    ∃ replicator : SnapshotReplicator, ∃ e,
      replicator = Machine.after call ReplicationSystem.duelReplicator
        [.registerRecipient ⟨1⟩ ⟨1⟩, .build ⟨1⟩ 1 (ReplicationSystem.duelWorld 5)] ∧
      (replicator.build ⟨1⟩ 2 {}).2 = .error e ∧
      (replicator.build ⟨1⟩ 2 {}).1 = replicator := by
  generalize hreplicator : Machine.after call ReplicationSystem.duelReplicator
    [.registerRecipient ⟨1⟩ ⟨1⟩, .build ⟨1⟩ 1 (ReplicationSystem.duelWorld 5)] =
      replicator
  have hthrows : (replicator.build ⟨1⟩ 2 {}).2.toOption.isNone = true := by
    rw [← hreplicator]
    decide +kernel
  obtain ⟨e, hbuilt⟩ := except_eq_error hthrows
  exact ⟨replicator, e, rfl, hbuilt, (build_atomic replicator ⟨1⟩ 2 {} e hbuilt).1⟩

end SnapshotReplicator

/-! ## The baselines of one recipient -/

namespace Recipient

/-- The baselines are in the order they were issued in, none older than the
acknowledged one. -/
structure Ordered (maximum : Nat) (recipient : Recipient) : Prop where
  ascending : recipient.baselines.Pairwise fun first second =>
    first.snapshotId < second.snapshotId
  bounded : recipient.baselines.length ≤ maximum
  trimmed : ∀ baseline ∈ recipient.baselines,
    recipient.acknowledgedSnapshotId ≤ baseline.snapshotId
  issued : ∀ baseline ∈ recipient.baselines,
    baseline.snapshotId ≤ recipient.issuedHighWatermark

theorem evictOne_sublist (maximum : Nat) (acknowledged : UInt32)
    (baselines : List ServerBaseline) :
    (evictOne maximum acknowledged baselines).Sublist baselines := by
  cases baselines with
  | nil => exact .slnil
  | cons front rest =>
    rw [evictOne]
    split
    · exact (List.tail_sublist rest).cons_cons front
    · exact List.sublist_cons_self front rest

theorem evict_sublist (maximum : Nat) (acknowledged : UInt32) (excess : Nat)
    (baselines : List ServerBaseline) :
    (evict maximum acknowledged excess baselines).Sublist baselines := by
  induction excess generalizing baselines with
  | zero => exact List.Sublist.refl baselines
  | succ excess ih => exact (ih _).trans (evictOne_sublist _ _ baselines)

/-- Evicting from more than the capacity drops one baseline. -/
theorem evictOne_length {maximum : Nat} (acknowledged : UInt32)
    {baselines : List ServerBaseline} (hlong : maximum < baselines.length) :
    (evictOne maximum acknowledged baselines).length + 1 = baselines.length := by
  cases baselines with
  | nil => cases hlong
  | cons front rest =>
    rw [evictOne]
    rw [List.length_cons] at hlong ⊢
    split
    · rw [List.length_cons, List.length_tail]
      omega
    · rfl

theorem evict_length {maximum : Nat} (acknowledged : UInt32) {excess : Nat}
    {baselines : List ServerBaseline}
    (hlong : baselines.length = maximum + excess) :
    (evict maximum acknowledged excess baselines).length = maximum := by
  induction excess generalizing baselines with
  | zero => exact hlong
  | succ excess ih =>
    have hone : (evictOne maximum acknowledged baselines).length + 1 = baselines.length :=
      evictOne_length acknowledged (by omega)
    exact ih (by omega)

/-- The acknowledged baseline stays in front where there is room for two. -/
theorem evict_front {maximum : Nat} (hroom : 1 < maximum) {front : ServerBaseline}
    (hnonzero : front.snapshotId ≠ 0) (excess : Nat) (rest : List ServerBaseline) :
    ∃ left, evict maximum front.snapshotId excess (front :: rest) = front :: left := by
  induction excess generalizing rest with
  | zero => exact ⟨rest, rfl⟩
  | succ excess ih =>
    rw [evict, evictOne, if_pos ⟨hnonzero, rfl, hroom⟩]
    exact ih rest.tail

/-- What an acknowledgement leaves is not older than it. -/
theorem dropWhile_older {baselines : List ServerBaseline}
    (h : baselines.Pairwise fun first second => first.snapshotId < second.snapshotId)
    (snapshotId : UInt32) :
    ∀ baseline ∈ baselines.dropWhile (fun stored => decide (stored.snapshotId < snapshotId)),
      snapshotId ≤ baseline.snapshotId := by
  induction baselines with
  | nil => exact nofun
  | cons front rest ih =>
    obtain ⟨hfront, hrest⟩ := List.pairwise_cons.mp h
    by_cases hold : front.snapshotId < snapshotId
    · rw [List.dropWhile_cons_of_pos (by simpa using hold)]
      exact ih hrest
    · rw [List.dropWhile_cons_of_neg (by simpa using hold)]
      intro baseline hbaseline
      have hnewer : snapshotId ≤ front.snapshotId := not_lt.mp hold
      rcases List.mem_cons.mp hbaseline with rfl | hlater
      · exact hnewer
      · exact hnewer.trans (hfront baseline hlater).le

theorem storeBaseline_sublist (recipient : Recipient) (maximum : Nat) (snapshotId : UInt32)
    (view : QuantizedWorld) :
    (recipient.storeBaseline maximum snapshotId view).Sublist
      (recipient.baselines ++ [⟨snapshotId, view⟩]) :=
  evict_sublist _ _ _ _

theorem storeBaseline_length {recipient : Recipient} {maximum : Nat}
    (hbounded : recipient.baselines.length ≤ maximum)
    (snapshotId : UInt32) (view : QuantizedWorld) :
    (recipient.storeBaseline maximum snapshotId view).length ≤ maximum := by
  rcases Nat.lt_or_ge recipient.baselines.length maximum with hroom | hfull
  · refine (storeBaseline_sublist recipient maximum snapshotId view).length_le.trans ?_
    rw [List.length_append, List.length_singleton]
    exact hroom
  · have hlength : (recipient.baselines ++
        [(⟨snapshotId, view⟩ : ServerBaseline)]).length = maximum + 1 := by
      rw [List.length_append, List.length_singleton]
      omega
    unfold storeBaseline
    dsimp only
    rw [hlength, Nat.add_sub_cancel_left]
    exact (evict_length _ hlength).le

/-- An acknowledged baseline that is stored is the oldest one. -/
theorem Ordered.front {maximum : Nat} {recipient : Recipient} (h : recipient.Ordered maximum)
    {baseline : ServerBaseline}
    (hfound : recipient.findBaseline recipient.acknowledgedSnapshotId = some baseline) :
    baseline.snapshotId = recipient.acknowledgedSnapshotId ∧
      ∃ rest, recipient.baselines = baseline :: rest := by
  have hid : baseline.snapshotId = recipient.acknowledgedSnapshotId := by
    simpa using List.find?_some hfound
  have hmem := List.mem_of_find?_eq_some hfound
  refine ⟨hid, ?_⟩
  cases hbaselines : recipient.baselines with
  | nil =>
    rw [hbaselines] at hmem
    cases hmem
  | cons front rest =>
    have hascending := h.ascending
    have htrimmed := h.trimmed front (by rw [hbaselines]; exact List.mem_cons_self)
    rw [hbaselines] at hmem hascending
    rcases List.mem_cons.mp hmem with rfl | hlater
    · exact ⟨rest, rfl⟩
    · have hless := (List.pairwise_cons.mp hascending).1 baseline hlater
      rw [hid] at hless
      exact absurd hless (not_lt.mpr htrimmed)

/-- Storing a newer baseline keeps the acknowledged one. -/
theorem Ordered.storeBaseline_keeps {maximum : Nat} {recipient : Recipient}
    (h : recipient.Ordered maximum) (hroom : 1 < maximum)
    (hnonzero : recipient.acknowledgedSnapshotId ≠ 0) {baseline : ServerBaseline}
    (hfound : recipient.findBaseline recipient.acknowledgedSnapshotId = some baseline)
    (snapshotId : UInt32) (view : QuantizedWorld) :
    (recipient.storeBaseline maximum snapshotId view).find? (fun stored =>
      stored.snapshotId == recipient.acknowledgedSnapshotId) = some baseline := by
  obtain ⟨hid, rest, hbaselines⟩ := h.front hfound
  unfold storeBaseline
  dsimp only
  rw [hbaselines, List.cons_append, ← hid]
  rw [← hid] at hnonzero
  obtain ⟨left, hleft⟩ := evict_front hroom hnonzero
    ((baseline :: (rest ++ [(⟨snapshotId, view⟩ : ServerBaseline)])).length - maximum)
    (rest ++ [⟨snapshotId, view⟩])
  rw [hleft, List.find?_cons_of_pos (by simp)]

/-- What holds of a recipient after any calls; `interval` is the number of builds a
keyframe is due in. -/
structure Kept (maximum interval : Nat) (recipient : Recipient) : Prop
    extends recipient.Ordered maximum where
  acknowledged : recipient.acknowledgedSnapshotId ≤ recipient.issuedHighWatermark
  positive : ∀ baseline ∈ recipient.baselines, 0 < baseline.snapshotId
  ordinal : recipient.buildOrdinal ≤ recipient.issuedHighWatermark
  keyframe : recipient.lastKeyframeOrdinal ≤ recipient.buildOrdinal
  due : recipient.lastKeyframeOrdinal ≠ 0 →
    recipient.buildOrdinal.toNat - recipient.lastKeyframeOrdinal.toNat < interval

theorem kept_new (maximum interval : Nat) (controlledActor : EntityId) :
    ({ controlledActor } : Recipient).Kept maximum interval where
  ascending := List.Pairwise.nil
  bounded := Nat.zero_le maximum
  trimmed := nofun
  issued := nofun
  acknowledged := le_rfl
  positive := nofun
  ordinal := le_rfl
  keyframe := le_rfl
  due := fun hnonzero => absurd rfl hnonzero

/-- Fewer than this many builds come before the next keyframe. -/
def slack (interval : Nat) (recipient : Recipient) : Nat :=
  if recipient.lastKeyframeOrdinal = 0 then 0
  else interval - 1 - (recipient.buildOrdinal.toNat - recipient.lastKeyframeOrdinal.toNat)

end Recipient

namespace SnapshotReplicator

/-! ## What a call does to one recipient -/

/-- What becomes of a player's record, and what is built for the player. -/
inductive RecipientChange (replicator : SnapshotReplicator) (player : PlayerId) :
    ReplicatorCall → Option ReplicationBuild → Option Recipient → Prop
  | same (event : ReplicatorCall) :
    RecipientChange replicator player event none replicator.recipients[player]?
  | registered (controlledActor : EntityId)
      (absent : replicator.recipients[player]? = none) :
    RecipientChange replicator player (.registerRecipient player controlledActor) none
      (some { controlledActor })
  | removed : RecipientChange replicator player (.removeRecipient player) none none
  | acknowledged (recipient : Recipient) (snapshotId : UInt32)
      (found : replicator.recipients[player]? = some recipient)
      (issued : snapshotId ≤ recipient.issuedHighWatermark)
      (newer : recipient.acknowledgedSnapshotId < snapshotId) :
    RecipientChange replicator player (.acceptAcknowledgement player snapshotId) none
      (some { recipient with
        acknowledgedSnapshotId := snapshotId
        baselines := recipient.baselines.dropWhile fun baseline =>
          decide (baseline.snapshotId < snapshotId) })
  | requested (recipient : Recipient)
      (found : replicator.recipients[player]? = some recipient) :
    RecipientChange replicator player (.requestKeyframe player) none
      (some { recipient with keyframeRequested := true })
  | built (recipient : Recipient) (snapshotId : UInt32) (world : GameSnapshot)
      (prepared : PreparedBuild) (view : QuantizedWorld)
      (found : replicator.recipients[player]? = some recipient)
      (increasing : recipient.issuedHighWatermark < snapshotId)
      (stored : prepared.view = some view)
      (keyframe : prepared.build.keyframe = (replicator.deltaBase recipient).isNone)
      (fallback : prepared.build.fallbackKeyframe =
        (recipient.acknowledgedSnapshotId != 0 &&
          (recipient.findBaseline recipient.acknowledgedSnapshotId).isNone)) :
    RecipientChange replicator player (.build player snapshotId world)
      (some prepared.build)
      (some (replicator.builtRecipient recipient snapshotId prepared))

/-- A build in delta mode is a keyframe where there is nothing to send a difference
from. -/
theorem prepare_flags {replicator : SnapshotReplicator}
    (hmode : replicator.config.mode = .interestDelta) {recipient : Recipient}
    {snapshotId : UInt32} {world : GameSnapshot} {prepared : PreparedBuild}
    (h : replicator.prepare recipient snapshotId world = .ok prepared) :
    prepared.build.keyframe = (replicator.deltaBase recipient).isNone ∧
      prepared.build.fallbackKeyframe =
        (recipient.acknowledgedSnapshotId != 0 &&
          (recipient.findBaseline recipient.acknowledgedSnapshotId).isNone) := by
  unfold prepare at h
  obtain ⟨-, hactor⟩ := throwIf_bind_eq_ok.mp h
  obtain ⟨controlled, -, hgrid⟩ := except_bind_eq_ok.mp hactor
  obtain ⟨candidate, -, hquery⟩ := except_bind_eq_ok.mp hgrid
  obtain ⟨visible, -, hown⟩ := except_bind_eq_ok.mp hquery
  obtain ⟨-, hfilter⟩ := throwIf_bind_eq_ok.mp hown
  obtain ⟨filtered, -, hchoose⟩ := except_bind_eq_ok.mp hfilter
  obtain ⟨choice, hchoice, hencode⟩ := except_bind_eq_ok.mp hchoose
  obtain ⟨bytes, -, hprepared⟩ := except_bind_eq_ok.mp hencode
  obtain rfl := Except.ok.inj hprepared
  rw [choosePayload, if_neg (by rw [hmode]; decide)] at hchoice
  obtain ⟨view, -, hchosen⟩ := except_bind_eq_ok.mp hchoice
  rw [if_pos hmode] at hchosen
  unfold chooseDelta at hchosen
  cases hbase : replicator.deltaBase recipient with
  | none =>
    simp only [hbase] at hchosen
    obtain rfl := Except.ok.inj hchosen
    exact ⟨rfl, rfl⟩
  | some base =>
    simp only [hbase] at hchosen
    obtain ⟨payload, -, hchoice⟩ := except_bind_eq_ok.mp hchosen
    obtain rfl := Except.ok.inj hchoice
    exact ⟨rfl, rfl⟩

theorem registerRecipient_changes (replicator : SnapshotReplicator) (player other : PlayerId)
    (controlledActor : EntityId) :
    RecipientChange replicator player (.registerRecipient other controlledActor) none
      (replicator.registerRecipient other controlledActor).1.recipients[player]? := by
  by_cases hother : player = other
  · subst hother
    unfold registerRecipient
    split
    · exact .same _
    · rename_i hfresh
      rw [setRecipient_recipients]
      refine .registered controlledActor ?_
      simp only [Bool.or_eq_true, not_or, Std.ExtTreeMap.contains_eq_isSome_getElem?,
        Bool.not_eq_true, Option.isSome_eq_false_iff, Option.isNone_iff_eq_none] at hfresh
      exact hfresh.1
  · rw [(registerRecipient_keepsOthers replicator other controlledActor).others player hother]
    exact .same _

theorem removeRecipient_changes (replicator : SnapshotReplicator) (player other : PlayerId) :
    RecipientChange replicator player (.removeRecipient other) none
      (replicator.removeRecipient other).recipients[player]? := by
  by_cases hother : player = other
  · subst hother
    rw [removeRecipient, Std.ExtTreeMap.getElem?_erase_self]
    exact .removed
  · rw [(removeRecipient_keepsOthers replicator other).others player hother]
    exact .same _

theorem acceptAcknowledgement_changes (replicator : SnapshotReplicator)
    (player other : PlayerId) (snapshotId : UInt32) :
    RecipientChange replicator player (.acceptAcknowledgement other snapshotId) none
      (replicator.acceptAcknowledgement other snapshotId).1.recipients[player]? := by
  by_cases hother : player = other
  · subst hother
    unfold acceptAcknowledgement
    refine attempt_induct (P := fun r : SnapshotReplicator × Except Exception Bool =>
      RecipientChange replicator player _ none r.1.recipients[player]?)
      (fun _ _ => .same _) ?_
    intro recipient hfound
    split
    · exact .same _
    · rename_i hissued
      split
      · rename_i hnewer
        rw [setRecipient_recipients]
        exact .acknowledged recipient snapshotId (recipientFor_eq_ok.mp hfound)
          (not_lt.mp fun hlt => hissued (Or.inr hlt)) hnewer
      · exact .same _
  · rw [((acceptAcknowledgement_trimmed replicator other snapshotId).keepsOthers).others
      player hother]
    exact .same _

theorem requestKeyframe_changes (replicator : SnapshotReplicator) (player other : PlayerId) :
    RecipientChange replicator player (.requestKeyframe other) none
      (replicator.requestKeyframe other).1.recipients[player]? := by
  by_cases hother : player = other
  · subst hother
    unfold requestKeyframe
    refine attempt_induct (P := fun r : SnapshotReplicator × Except Exception Unit =>
      RecipientChange replicator player _ none r.1.recipients[player]?)
      (fun _ _ => .same _) ?_
    intro recipient hfound
    rw [setRecipient_recipients]
    exact .requested recipient (recipientFor_eq_ok.mp hfound)
  · rw [((requestKeyframe_trimmed replicator other).keepsOthers).others player hother]
    exact .same _

theorem build_changes {replicator : SnapshotReplicator}
    (hmode : replicator.config.mode = .interestDelta) (player other : PlayerId)
    (snapshotId : UInt32) (world : GameSnapshot) :
    RecipientChange replicator player (.build other snapshotId world)
      (ReplicatorReply.buildFor player (.build other snapshotId world)
        (.built (replicator.build other snapshotId world).2))
      (replicator.build other snapshotId world).1.recipients[player]? := by
  have hstep := build_step hmode other snapshotId world
  by_cases hother : player = other
  · subst hother
    rw [ReplicatorReply.buildFor, if_pos rfl]
    generalize replicator.build player snapshotId world = outcome at hstep
    cases hstep with
    | thrown e => exact .same _
    | built recipient prepared view hfound hincreasing hprepares hdelta =>
      obtain ⟨hkeyframe, hfallback⟩ := prepare_flags hmode hprepares
      rw [setRecipient_recipients]
      exact .built recipient snapshotId world prepared view hfound hincreasing
        hdelta.stored hkeyframe hfallback
  · rw [hstep.keepsOthers.others player hother, ReplicatorReply.buildFor,
      if_neg (Ne.symm hother)]
    exact .same _

theorem call_changes {replicator : SnapshotReplicator}
    (hmode : replicator.config.mode = .interestDelta) (player : PlayerId)
    (event : ReplicatorCall) :
    RecipientChange replicator player event
      (ReplicatorReply.buildFor player event (replicator.call event).2)
      (replicator.call event).1.recipients[player]? := by
  cases event with
  | registerRecipient other controlledActor =>
    exact registerRecipient_changes replicator player other controlledActor
  | removeRecipient other => exact removeRecipient_changes replicator player other
  | acceptAcknowledgement other snapshotId =>
    exact acceptAcknowledgement_changes replicator player other snapshotId
  | requestKeyframe other => exact requestKeyframe_changes replicator player other
  | build other snapshotId world => exact build_changes hmode player other snapshotId world

theorem call_config {replicator : SnapshotReplicator}
    (hmode : replicator.config.mode = .interestDelta) (event : ReplicatorCall) :
    (replicator.call event).1.config = replicator.config := by
  cases event with
  | registerRecipient player controlledActor =>
    exact (registerRecipient_keepsOthers replicator player controlledActor).config
  | removeRecipient player => exact (removeRecipient_keepsOthers replicator player).config
  | acceptAcknowledgement player snapshotId =>
    exact (acceptAcknowledgement_trimmed replicator player snapshotId).keepsOthers.config
  | requestKeyframe player => exact (requestKeyframe_trimmed replicator player).keepsOthers.config
  | build player snapshotId world =>
    exact (build_step hmode player snapshotId world).keepsOthers.config

/-! ## What every call keeps -/

variable {replicator : SnapshotReplicator} {recipient : Recipient}

/-- A difference is sent only between two keyframes. -/
theorem deltaBase_due (h : (replicator.deltaBase recipient).isNone = false) :
    recipient.lastKeyframeOrdinal ≠ 0 ∧
      recipient.buildOrdinal + 1 - recipient.lastKeyframeOrdinal <
        replicator.config.keyframeIntervalSnapshots := by
  simp only [deltaBase] at h
  split at h
  · cases h
  · rename_i hdue
    simp only [Bool.or_eq_true, not_or, beq_iff_eq, decide_eq_true_eq, not_le] at hdue
    exact ⟨hdue.1.2.1, hdue.1.2.2⟩

theorem ordinal_succ {ordinal watermark snapshotId : UInt32} (hordinal : ordinal ≤ watermark)
    (hincreasing : watermark < snapshotId) :
    (ordinal + 1).toNat = ordinal.toNat + 1 ∧ ordinal + 1 ≤ snapshotId := by
  rw [UInt32.le_iff_toNat_le] at hordinal ⊢
  rw [UInt32.lt_iff_toNat_lt] at hincreasing
  have hbound := snapshotId.toNat_lt
  have hsucc : (ordinal + 1).toNat = ordinal.toNat + 1 := by
    rw [UInt32.toNat_add, Nat.mod_eq_of_lt]
    · rfl
    · change ordinal.toNat + 1 < 2 ^ 32
      omega
  exact ⟨hsucc, by omega⟩

/-- Where a difference is sent the last keyframe is not too far back. -/
theorem difference_due {maximum interval : Nat} (h : recipient.Kept maximum interval)
    {snapshotId : UInt32} (hincreasing : recipient.issuedHighWatermark < snapshotId)
    (hdelta : (replicator.deltaBase recipient).isNone = false) :
    recipient.lastKeyframeOrdinal ≠ 0 ∧
      (recipient.buildOrdinal + 1).toNat - recipient.lastKeyframeOrdinal.toNat <
        replicator.config.keyframeIntervalSnapshots.toNat := by
  obtain ⟨hnonzero, hdue⟩ := deltaBase_due hdelta
  obtain ⟨hsucc, -⟩ := ordinal_succ h.ordinal hincreasing
  have hkeyframe := UInt32.le_iff_toNat_le.mp h.keyframe
  have hle : recipient.lastKeyframeOrdinal ≤ recipient.buildOrdinal + 1 := by
    rw [UInt32.le_iff_toNat_le, hsucc]
    omega
  rw [UInt32.lt_iff_toNat_lt, UInt32.toNat_sub_of_le _ _ hle] at hdue
  exact ⟨hnonzero, hdue⟩

theorem builtRecipient_kept {maximum interval : Nat} (h : recipient.Kept maximum interval)
    (hmaximum : replicator.config.maximumBaselinesPerRecipient = maximum)
    (hinterval : replicator.config.keyframeIntervalSnapshots.toNat = interval)
    (hpos : 0 < interval) {snapshotId : UInt32}
    (hincreasing : recipient.issuedHighWatermark < snapshotId) {prepared : PreparedBuild}
    {view : QuantizedWorld} (hstored : prepared.view = some view)
    (hkeyframe : prepared.build.keyframe = (replicator.deltaBase recipient).isNone) :
    (replicator.builtRecipient recipient snapshotId prepared).Kept maximum interval := by
  obtain ⟨hsucc, hordinal⟩ := ordinal_succ h.ordinal hincreasing
  have hbaselines : (replicator.builtRecipient recipient snapshotId prepared).baselines =
      recipient.storeBaseline maximum snapshotId view := by
    rw [builtRecipient, hstored, ← hmaximum]
    rfl
  have hsublist := recipient.storeBaseline_sublist maximum snapshotId view
  have hmember : ∀ baseline ∈ recipient.storeBaseline maximum snapshotId view,
      baseline ∈ recipient.baselines ∨ baseline = ⟨snapshotId, view⟩ :=
    fun baseline hbaseline => mem_storeBaseline hbaseline
  have hlast : recipient.lastKeyframeOrdinal ≤ recipient.buildOrdinal + 1 := by
    have hbefore := UInt32.le_iff_toNat_le.mp h.keyframe
    rw [UInt32.le_iff_toNat_le, hsucc]
    omega
  exact {
    ascending := by
      rw [hbaselines]
      refine List.Pairwise.sublist hsublist ?_
      refine List.pairwise_append.mpr ⟨h.ascending, List.pairwise_singleton _ _, ?_⟩
      intro baseline hbaseline added hadded
      rw [List.mem_singleton.mp hadded]
      exact lt_of_le_of_lt (h.issued baseline hbaseline) hincreasing
    bounded := by
      rw [hbaselines]
      exact Recipient.storeBaseline_length h.bounded snapshotId view
    trimmed := by
      rw [hbaselines]
      intro baseline hbaseline
      rcases hmember baseline hbaseline with hold | rfl
      · exact h.trimmed baseline hold
      · exact (lt_of_le_of_lt h.acknowledged hincreasing).le
    issued := by
      rw [hbaselines]
      intro baseline hbaseline
      rcases hmember baseline hbaseline with hold | rfl
      · exact (lt_of_le_of_lt (h.issued baseline hold) hincreasing).le
      · exact le_rfl
    acknowledged := (lt_of_le_of_lt h.acknowledged hincreasing).le
    positive := by
      rw [hbaselines]
      intro baseline hbaseline
      rcases hmember baseline hbaseline with hold | rfl
      · exact h.positive baseline hold
      · exact lt_of_le_of_lt (UInt32.zero_le) hincreasing
    ordinal := hordinal
    keyframe := by
      rw [builtRecipient]
      dsimp only
      split
      · exact le_rfl
      · exact hlast
    due := by
      rw [builtRecipient]
      dsimp only
      split
      · intro _
        rw [Nat.sub_self]
        exact hpos
      · rename_i hdelta
        rw [Bool.not_eq_true, hkeyframe] at hdelta
        intro _
        rw [← hinterval]
        exact (difference_due h hincreasing hdelta).2 }

theorem RecipientChange.kept {player : PlayerId} {event : ReplicatorCall}
    {build : Option ReplicationBuild} {after : Option Recipient}
    (h : RecipientChange replicator player event build after) {maximum interval : Nat}
    (hmaximum : replicator.config.maximumBaselinesPerRecipient = maximum)
    (hinterval : replicator.config.keyframeIntervalSnapshots.toNat = interval)
    (hpos : 0 < interval)
    (hbefore : ∀ recipient, replicator.recipients[player]? = some recipient →
      recipient.Kept maximum interval) :
    ∀ recipient, after = some recipient → recipient.Kept maximum interval := by
  intro next hnext
  cases h with
  | same => exact hbefore next hnext
  | registered controlledActor =>
    obtain rfl := Option.some.inj hnext
    exact Recipient.kept_new maximum interval controlledActor
  | removed => cases hnext
  | acknowledged recipient snapshotId hfound hissued hnewer =>
    obtain rfl := Option.some.inj hnext
    have hkept := hbefore recipient hfound
    have hsublist := List.dropWhile_sublist (l := recipient.baselines) fun baseline =>
      decide (baseline.snapshotId < snapshotId)
    exact { hkept with
      ascending := hkept.ascending.sublist hsublist
      bounded := hsublist.length_le.trans hkept.bounded
      trimmed := Recipient.dropWhile_older hkept.ascending snapshotId
      issued := fun baseline hbaseline => hkept.issued baseline (hsublist.mem hbaseline)
      acknowledged := hissued
      positive := fun baseline hbaseline =>
        hkept.positive baseline (hsublist.mem hbaseline) }
  | requested recipient hfound =>
    obtain rfl := Option.some.inj hnext
    have hkept := hbefore recipient hfound
    exact { hkept with }
  | built recipient snapshotId world prepared view hfound hincreasing hstored hkeyframe =>
    obtain rfl := Option.some.inj hnext
    exact builtRecipient_kept (hbefore recipient hfound) hmaximum hinterval hpos
      hincreasing hstored hkeyframe

/-- How a record that stays registered continues an earlier one. -/
structure Continues (maximum : Nat) (before after : Recipient) : Prop where
  acknowledged : before.acknowledgedSnapshotId ≤ after.acknowledgedSnapshotId
  keeps : 1 < maximum → after.acknowledgedSnapshotId = before.acknowledgedSnapshotId →
    ∀ baseline, before.findBaseline before.acknowledgedSnapshotId = some baseline →
      after.findBaseline before.acknowledgedSnapshotId = some baseline

theorem continues_refl (maximum : Nat) (recipient : Recipient) :
    Continues maximum recipient recipient :=
  ⟨le_rfl, fun _ _ _ h => h⟩

theorem Continues.trans {maximum : Nat} {first second third : Recipient}
    (h : Continues maximum first second) (h' : Continues maximum second third) :
    Continues maximum first third where
  acknowledged := h.acknowledged.trans h'.acknowledged
  keeps := by
    intro hroom hsame baseline hfound
    have hmiddle : second.acknowledgedSnapshotId = first.acknowledgedSnapshotId :=
      le_antisymm (hsame ▸ h'.acknowledged) h.acknowledged
    have hsecond := h.keeps hroom hmiddle baseline hfound
    rw [← hmiddle] at hsecond ⊢
    exact h'.keeps hroom (hsame.trans hmiddle.symm) baseline hsecond

/-- A registered player stays registered until it is removed. -/
theorem RecipientChange.continues {player : PlayerId} {event : ReplicatorCall}
    {build : Option ReplicationBuild} {after : Option Recipient}
    (h : RecipientChange replicator player event build after)
    (hevent : event ≠ .removeRecipient player) {maximum interval : Nat}
    (hmaximum : replicator.config.maximumBaselinesPerRecipient = maximum)
    (hfound : replicator.recipients[player]? = some recipient)
    (hkept : recipient.Kept maximum interval) :
    ∃ next, after = some next ∧ Continues maximum recipient next := by
  cases h with
  | same => exact ⟨recipient, hfound, continues_refl maximum recipient⟩
  | registered controlledActor habsent =>
    rw [hfound] at habsent
    cases habsent
  | removed => exact absurd rfl hevent
  | acknowledged before snapshotId hbefore hissued hnewer =>
    obtain rfl := Option.some.inj (hbefore.symm.trans hfound)
    exact ⟨_, rfl, hnewer.le, fun _ hsame => absurd hsame hnewer.ne'⟩
  | requested before hbefore =>
    obtain rfl := Option.some.inj (hbefore.symm.trans hfound)
    exact ⟨_, rfl, le_rfl, fun _ _ _ h => h⟩
  | built before snapshotId world prepared view hbefore hincreasing hstored =>
    obtain rfl := Option.some.inj (hbefore.symm.trans hfound)
    refine ⟨_, rfl, le_rfl, fun hroom _ baseline hbaseline => ?_⟩
    have hnonzero : before.acknowledgedSnapshotId ≠ 0 := by
      intro hzero
      obtain ⟨hid, -⟩ := hkept.toOrdered.front hbaseline
      have hpositive := hkept.positive baseline (List.mem_of_find?_eq_some hbaseline)
      rw [hid, hzero] at hpositive
      exact absurd hpositive (lt_irrefl 0)
    rw [builtRecipient, hstored, hmaximum]
    exact hkept.toOrdered.storeBaseline_keeps hroom hnonzero hbaseline snapshotId view

/-! ## Runs -/

/-- The configuration, and what holds of every recipient. -/
structure Sound (config : ReplicationConfig) (replicator : SnapshotReplicator) : Prop where
  setup : replicator.config = config
  mode : config.mode = .interestDelta
  interval : 0 < config.keyframeIntervalSnapshots.toNat
  kept : ∀ (player : PlayerId) (recipient : Recipient),
    replicator.recipients[player]? = some recipient →
      recipient.Kept config.maximumBaselinesPerRecipient
        config.keyframeIntervalSnapshots.toNat

variable {config : ReplicationConfig}

theorem Sound.changes (h : replicator.Sound config) (player : PlayerId)
    (event : ReplicatorCall) :
    RecipientChange replicator player event
      (ReplicatorReply.buildFor player event (replicator.call event).2)
      (replicator.call event).1.recipients[player]? :=
  call_changes (by rw [h.setup, h.mode]) player event

theorem Sound.call (h : replicator.Sound config) (event : ReplicatorCall) :
    (replicator.call event).1.Sound config where
  setup := (call_config (by rw [h.setup, h.mode]) event).trans h.setup
  mode := h.mode
  interval := h.interval
  kept := fun player => (h.changes player event).kept (by rw [h.setup]) (by rw [h.setup])
    h.interval (h.kept player)

theorem Sound.after (h : replicator.Sound config) (calls : List ReplicatorCall) :
    (Machine.after SnapshotReplicator.call replicator calls).Sound config := by
  induction calls generalizing replicator with
  | nil => exact h
  | cons event calls ih => exact ih (h.call event)

theorem sound_create {vertices : List (Vec2 Float32)} {created : SnapshotReplicator}
    (hmode : config.mode = .interestDelta) (hcreated : create vertices config = .ok created) :
    created.Sound config := by
  have hconfig := create_config hcreated
  unfold create at hcreated
  obtain ⟨_, hvalid, hbounds⟩ := except_bind_eq_ok.mp hcreated
  obtain ⟨bounds, -, hgrid⟩ := except_bind_eq_ok.mp hbounds
  obtain ⟨grid, -, hcreated⟩ := except_bind_eq_ok.mp hgrid
  obtain rfl := Except.ok.inj hcreated
  refine ⟨hconfig, hmode, ?_, fun player recipient hfound => ?_⟩
  · rw [validateConfig, throwIf_eq_ok] at hvalid
    simp only [Bool.or_eq_false_iff, beq_eq_false_iff_ne] at hvalid
    have hnonzero := hvalid.1.1.2
    exact Nat.pos_of_ne_zero fun hzero => hnonzero (UInt32.toNat_inj.mp hzero)
  · simp at hfound

/-- How many builds may come before a player's next keyframe. -/
def slack (replicator : SnapshotReplicator) (interval : Nat) (player : PlayerId) : Nat :=
  replicator.recipients[player]?.elim 0 (Recipient.slack interval)

theorem slack_lt {interval : Nat} (hpos : 0 < interval) (player : PlayerId) :
    replicator.slack interval player < interval := by
  unfold slack
  cases replicator.recipients[player]? with
  | none => exact hpos
  | some recipient =>
    rw [Option.elim_some, Recipient.slack]
    split <;> omega

/-- Keyframes of a player come at the interval. -/
theorem Sound.spaced (h : replicator.Sound config) (player : PlayerId)
    (calls : List ReplicatorCall) :
    Spaced config.keyframeIntervalSnapshots.toNat
      (replicator.slack config.keyframeIntervalSnapshots.toNat player)
      ((builds player replicator calls).map ReplicationBuild.keyframe) := by
  generalize hinterval : config.keyframeIntervalSnapshots.toNat = interval
  have hpos : 0 < interval := hinterval ▸ h.interval
  induction calls generalizing replicator with
  | nil => exact .nil _
  | cons event calls ih =>
    have hrest := ih (h.call event)
    have hchange := h.changes player event
    rw [builds, List.map_append]
    have hlater : (replicator.call event).1.slack interval player < interval :=
      slack_lt hpos player
    unfold slack at hrest hlater ⊢
    generalize (replicator.call event).1.recipients[player]? = after at hchange hrest hlater
    generalize builds player (replicator.call event).1 calls = later at hrest ⊢
    generalize ReplicatorReply.buildFor player event (replicator.call event).2 = build
      at hchange ⊢
    cases hchange with
    | same => exact hrest
    | registered => exact hrest.mono (Nat.zero_le _)
    | removed => exact hrest.mono (Nat.zero_le _)
    | acknowledged recipient snapshotId hfound =>
      rw [hfound]
      exact hrest
    | requested recipient hfound =>
      rw [hfound]
      exact hrest
    | built recipient snapshotId world prepared view hfound hincreasing hstored hkeyframe =>
      rw [Option.toList_some, List.map_singleton, List.singleton_append, hfound]
      cases hflag : prepared.build.keyframe with
      | true => exact .mark (hrest.mono (by omega))
      | false =>
        have hdelta := hkeyframe.symm.trans hflag
        have hkept := h.kept player recipient hfound
        obtain ⟨hnonzero, hdue⟩ := difference_due hkept hincreasing hdelta
        obtain ⟨hsucc, -⟩ := ordinal_succ hkept.ordinal hincreasing
        have hlast := UInt32.le_iff_toNat_le.mp hkept.keyframe
        rw [h.setup, hinterval, hsucc] at hdue
        have hslack : Recipient.slack interval recipient =
            Recipient.slack interval
              (replicator.builtRecipient recipient snapshotId prepared) + 1 := by
          rw [Recipient.slack, Recipient.slack, if_neg hnonzero, builtRecipient]
          simp only [hflag, Bool.false_eq_true, if_false]
          rw [if_neg hnonzero, hsucc]
          omega
        rw [Option.elim_some, hslack]
        exact .skip hrest

theorem Sound.continues (h : replicator.Sound config) {player : PlayerId}
    (hfound : replicator.recipients[player]? = some recipient) {calls : List ReplicatorCall}
    (hcalls : ∀ event ∈ calls, event ≠ .removeRecipient player) :
    ∃ next, (Machine.after SnapshotReplicator.call replicator calls).recipients[player]? =
        some next ∧ Continues config.maximumBaselinesPerRecipient recipient next := by
  induction calls generalizing replicator recipient with
  | nil => exact ⟨recipient, hfound, continues_refl _ recipient⟩
  | cons event calls ih =>
    obtain ⟨middle, hmiddle, hfirst⟩ := (h.changes player event).continues
      (hcalls event List.mem_cons_self) (by rw [h.setup]) hfound (h.kept player recipient hfound)
    obtain ⟨next, hnext, hrest⟩ := ih (h.call event) hmiddle fun later hlater =>
      hcalls later (List.mem_cons_of_mem event hlater)
    exact ⟨next, hnext, hfirst.trans hrest⟩

/-- A build falls back to a keyframe for want of the acknowledged baseline. -/
theorem Sound.fallback (h : replicator.Sound config) {player : PlayerId}
    (hfound : replicator.recipients[player]? = some recipient) {snapshotId : UInt32}
    {world : GameSnapshot} {build : ReplicationBuild}
    (hbuilt : (replicator.build player snapshotId world).2 = .ok build) :
    (build.fallbackKeyframe = true ↔ recipient.acknowledgedSnapshotId ≠ 0 ∧
        recipient.findBaseline recipient.acknowledgedSnapshotId = none) ∧
      (build.fallbackKeyframe = true → build.keyframe = true) := by
  have hmode : replicator.config.mode = .interestDelta := by rw [h.setup, h.mode]
  have hstep := build_step hmode player snapshotId world
  generalize replicator.build player snapshotId world = outcome at hstep hbuilt
  cases hstep with
  | thrown e => cases hbuilt
  | built before prepared view hbefore hincreasing hprepares hdelta =>
    obtain rfl := Option.some.inj (hbefore.symm.trans hfound)
    obtain rfl := Except.ok.inj hbuilt
    obtain ⟨hkeyframe, hfallback⟩ := prepare_flags hmode hprepares
    have hiff : prepared.build.fallbackKeyframe = true ↔
        before.acknowledgedSnapshotId ≠ 0 ∧
          before.findBaseline before.acknowledgedSnapshotId = none := by
      rw [hfallback, Bool.and_eq_true, bne_iff_ne, Option.isNone_iff_eq_none]
    refine ⟨hiff, fun hfalls => ?_⟩
    rw [hkeyframe, Option.isNone_iff_eq_none]
    simp only [deltaBase]
    split
    · rfl
    · exact (hiff.mp hfalls).2

/-- Every recipient's baselines stay ordered and keep the acknowledged one, and
keyframes come at the interval. -/
theorem run_baselines (vertices : List (Vec2 Float32)) (config : ReplicationConfig)
    (hmode : config.mode = .interestDelta) (created : SnapshotReplicator)
    (hcreated : create vertices config = .ok created) (calls : List ReplicatorCall)
    (player : PlayerId) :
    (∀ recipient,
      (Machine.after call created calls).recipients[player]? = some recipient →
        recipient.Ordered config.maximumBaselinesPerRecipient ∧
        (∀ later : List ReplicatorCall, (∀ event ∈ later, event ≠ .removeRecipient player) →
          ∃ next, (Machine.after call created (calls ++ later)).recipients[player]? =
              some next ∧
            Continues config.maximumBaselinesPerRecipient recipient next) ∧
        ∀ snapshotId world build,
          ((Machine.after call created calls).build player snapshotId world).2 = .ok build →
            (build.fallbackKeyframe = true ↔ recipient.acknowledgedSnapshotId ≠ 0 ∧
              recipient.findBaseline recipient.acknowledgedSnapshotId = none) ∧
            (build.fallbackKeyframe = true → build.keyframe = true)) ∧
      ∀ window, window <:+: builds player created calls →
        window.length = config.keyframeIntervalSnapshots.toNat →
          ∃ build ∈ window, build.keyframe = true := by
  have hcreate := sound_create hmode hcreated
  have hsound := hcreate.after calls
  refine ⟨fun recipient hfound => ⟨(hsound.kept player recipient hfound).toOrdered,
    fun later hlater => ?_, fun snapshotId world build hbuilt =>
      hsound.fallback hfound hbuilt⟩, fun window hwindow hlength => ?_⟩
  · rw [Machine.after_append]
    exact hsound.continues hfound hlater
  · have hmarked := (hcreate.spaced player calls).mark_mem_window hcreate.interval
      (slack_lt hcreate.interval player) (hwindow.map ReplicationBuild.keyframe)
      (by rw [List.length_map, hlength])
    obtain ⟨build, hbuild, hkeyframe⟩ := List.mem_map.mp hmarked
    exact ⟨build, hbuild, hkeyframe⟩

/-- Two builds with an acknowledgement between them. -/
def duelCalls : List ReplicatorCall :=
  [.registerRecipient ⟨1⟩ ⟨1⟩, .build ⟨1⟩ 1 (ReplicationSystem.duelWorld 5),
    .acceptAcknowledgement ⟨1⟩ 1, .build ⟨1⟩ 2 (ReplicationSystem.duelWorld 6)]

theorem run_baselines_duel :
    ∃ recipient,
      (Machine.after call ReplicationSystem.duelReplicator duelCalls).recipients[
        (⟨1⟩ : PlayerId)]? = some recipient ∧
      recipient.Ordered 32 ∧
      recipient.baselines.map ServerBaseline.snapshotId = [1, 2] := by
  have hids : ((Machine.after call ReplicationSystem.duelReplicator duelCalls).recipients[
      (⟨1⟩ : PlayerId)]?.map fun recipient =>
        recipient.baselines.map ServerBaseline.snapshotId) = some [1, 2] := by
    decide +kernel
  obtain ⟨recipient, hfound, hbaselines⟩ := Option.map_eq_some_iff.mp hids
  have hordered := ((run_baselines ReplicationSystem.duelVertices ReplicationSystem.duelConfig
    rfl ReplicationSystem.duelReplicator (except_eq_ok_get ReplicationSystem.duel_created)
    duelCalls ⟨1⟩).1 recipient hfound).1
  exact ⟨recipient, hfound, hordered, hbaselines⟩

end SnapshotReplicator

end SurvivalArena
