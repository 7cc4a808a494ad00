import SurvivalArena.Replication.BaselineRun

/-!
# The snapshots issued to a recipient

Whatever calls a replicator receives and whatever its mode, the watermark of a recipient is
zero or an identifier that was built for it.  An acknowledgement above all of these changes
nothing.
-/

namespace SurvivalArena

open Machine OrderedMap

/-- The identifier of a build for one player that succeeded. -/
def ReplicatorReply.issuedFor (player : PlayerId) :
    ReplicatorCall → ReplicatorReply → Option UInt32
  | .build recipient snapshotId _, .built (.ok _) =>
    if recipient = player then some snapshotId else none
  | _, _ => none

namespace SnapshotReplicator

/-- The identifiers that a sequence of calls issued to a player. -/
def issuedIds (player : PlayerId) (replicator : SnapshotReplicator) :
    List ReplicatorCall → List UInt32
  | [] => []
  | event :: calls =>
    (ReplicatorReply.issuedFor player event (replicator.call event).2).toList ++
      issuedIds player (replicator.call event).1 calls

/-- The watermark of a player's record is zero, or was issued. -/
def Marked (issued : List UInt32) (recipient : Option Recipient) : Prop :=
  ∀ record ∈ recipient, record.issuedHighWatermark = 0 ∨ record.issuedHighWatermark ∈ issued

variable {replicator : SnapshotReplicator} {player : PlayerId} {issued : List UInt32}

theorem RecipientChange.marked {event : ReplicatorCall} {next : Option Recipient}
    (h : RecipientChange replicator player event none next)
    (hbefore : Marked issued replicator.recipients[player]?) :
    Marked issued next := by
  cases h with
  | same => exact hbefore
  | registered controlledActor absent =>
    rintro record ⟨⟩
    exact .inl rfl
  | removed => exact nofun
  | acknowledged recipient snapshotId found issued newer =>
    rintro record ⟨⟩
    exact hbefore recipient found
  | requested recipient found =>
    rintro record ⟨⟩
    exact hbefore recipient found

/-- A build sets the watermark of its recipient, and no other one. -/
theorem build_marked (other : PlayerId) (snapshotId : UInt32) (world : GameSnapshot)
    (hbefore : Marked issued replicator.recipients[player]?) :
    Marked (issued ++ (ReplicatorReply.issuedFor player (.build other snapshotId world)
        (.built (replicator.build other snapshotId world).2)).toList)
      (replicator.build other snapshotId world).1.recipients[player]? := by
  have hthrown : ∀ e, Marked (issued ++ (ReplicatorReply.issuedFor player
      (.build other snapshotId world) (.built (.error e))).toList)
        replicator.recipients[player]? := by
    intro e
    rw [show ReplicatorReply.issuedFor player _ _ = none from rfl, Option.toList_none,
      List.append_nil]
    exact hbefore
  have hbuilt : ∀ (build : ReplicationBuild) (after : SnapshotReplicator) (recipient : Recipient),
      after.recipients = replicator.recipients → recipient.issuedHighWatermark = snapshotId →
        Marked (issued ++ (ReplicatorReply.issuedFor player
          (.build other snapshotId world) (.built (.ok build))).toList)
            (after.setRecipient other recipient).recipients[player]? := by
    intro build after recipient hrecipients hwatermark record hrecord
    have hfound : (after.recipients.insert other recipient)[player]? = some record := hrecord
    rw [getElem?_insert, hrecipients] at hfound
    by_cases hplayer : player = other
    · rw [if_pos hplayer] at hfound
      obtain rfl := Option.some.inj hfound
      refine .inr (List.mem_append_right _ ?_)
      rw [hwatermark, ReplicatorReply.issuedFor, if_pos hplayer.symm]
      exact List.mem_singleton_self snapshotId
    · rw [if_neg hplayer] at hfound
      rcases hbefore record hfound with hzero | hissued
      · exact .inl hzero
      · exact .inr (List.mem_append_left _ hissued)
  unfold build
  refine attempt_induct (P := fun call : SnapshotReplicator × Except Exception ReplicationBuild =>
    Marked (issued ++ (ReplicatorReply.issuedFor player (.build other snapshotId world)
      (.built call.2)).toList) call.1.recipients[player]?) (fun e _ => hthrown e) ?_
  intro recipient hfound
  split
  · exact hthrown _
  · split
    · unfold buildFullState
      refine attempt_induct (P := fun call : SnapshotReplicator × Except Exception
        ReplicationBuild => Marked (issued ++ (ReplicatorReply.issuedFor player
          (.build other snapshotId world) (.built call.2)).toList) call.1.recipients[player]?)
        (fun e _ => hthrown e) ?_
      intro encodedPayload _
      exact hbuilt _ replicator _ rfl rfl
    · refine attempt_induct (P := fun call : SnapshotReplicator × Except Exception
        ReplicationBuild => Marked (issued ++ (ReplicatorReply.issuedFor player
          (.build other snapshotId world) (.built call.2)).toList) call.1.recipients[player]?)
        (fun e _ => hthrown e) ?_
      intro prepared _
      refine hbuilt _ (replicator.commitGrid snapshotId world prepared.candidateGrid) _ ?_ rfl
      cases prepared.candidateGrid with
      | none => rfl
      | some grid => rfl

/-- The step lemma. -/
theorem call_marked (event : ReplicatorCall)
    (hbefore : Marked issued replicator.recipients[player]?) :
    Marked (issued ++ (ReplicatorReply.issuedFor player event
      (replicator.call event).2).toList) (replicator.call event).1.recipients[player]? := by
  have hquiet : ∀ (event : ReplicatorCall) (next : Option Recipient),
      RecipientChange replicator player event none next → Marked (issued ++ []) next := by
    intro event next hchange
    rw [List.append_nil]
    exact hchange.marked hbefore
  cases event with
  | registerRecipient other controlledActor =>
    exact hquiet _ _ (registerRecipient_changes replicator player other controlledActor)
  | removeRecipient other => exact hquiet _ _ (removeRecipient_changes replicator player other)
  | acceptAcknowledgement other snapshotId =>
    exact hquiet _ _ (acceptAcknowledgement_changes replicator player other snapshotId)
  | requestKeyframe other => exact hquiet _ _ (requestKeyframe_changes replicator player other)
  | build other snapshotId world => exact build_marked other snapshotId world hbefore

/-- The run lemma. -/
theorem run_marked (calls : List ReplicatorCall) (replicator : SnapshotReplicator)
    (issued : List UInt32) (hbefore : Marked issued replicator.recipients[player]?) :
    Marked (issued ++ issuedIds player replicator calls)
      (after call replicator calls).recipients[player]? := by
  induction calls generalizing replicator issued with
  | nil =>
    rw [issuedIds, List.append_nil]
    exact hbefore
  | cons event calls ih =>
    rw [issuedIds, ← List.append_assoc]
    exact ih _ _ (call_marked event hbefore)

/-- An acknowledgement of zero, or above everything that was issued, is refused. -/
theorem acceptAcknowledgement_unissued {snapshotId : UInt32}
    (hmarked : Marked issued replicator.recipients[player]?)
    (hunissued : snapshotId = 0 ∨ ∀ identifier ∈ issued, identifier < snapshotId) :
    (replicator.acceptAcknowledgement player snapshotId).1 = replicator ∧
      (replicator.acceptAcknowledgement player snapshotId).2 ≠ .ok true := by
  unfold acceptAcknowledgement
  refine attempt_induct (P := fun call : SnapshotReplicator × Except Exception Bool =>
    call.1 = replicator ∧ call.2 ≠ .ok true) (fun e _ => ⟨rfl, nofun⟩) ?_
  intro recipient hfound
  have hrefused : snapshotId = 0 ∨ recipient.issuedHighWatermark < snapshotId := by
    rcases hunissued with hzero | habove
    · exact .inl hzero
    · rcases hmarked recipient (recipientFor_eq_ok.mp hfound) with hnone | hissued
      · rw [hnone]
        by_cases hzero : snapshotId = 0
        · exact .inl hzero
        · exact .inr (UInt32.pos_iff_ne_zero.mpr hzero)
      · exact .inr (habove _ hissued)
  rw [if_pos hrefused]
  exact ⟨rfl, nofun⟩

end SnapshotReplicator

end SurvivalArena
