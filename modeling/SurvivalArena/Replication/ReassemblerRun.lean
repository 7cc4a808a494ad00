import SurvivalArena.Replication.SnapshotReassembler

/-!
# Runs of the reassembler

What one fragment can do is listed once.  Over any sequence of calls the ids of
the payloads increase, a payload is made of received fragments of its own
metadata, and a snapshot that is lost asks for recovery when it is lost.
-/

namespace SurvivalArena

open Wire Machine

namespace Assembly

def metadata (active : Assembly) : SnapshotMetadata where
  matchId := active.matchId
  snapshotId := active.snapshotId
  serverTick := active.serverTick
  ackInputSequence := active.ackInputSequence
  fragmentCount := active.fragmentCount
  fullPayloadBytes := active.fullPayloadBytes
  fullPayloadCrc32 := active.fullPayloadCrc32

theorem metadataMatches_iff {active : Assembly} {fragment : SnapshotFragment} :
    active.metadataMatches fragment = true ↔ active.metadata = fragment.metadata := by
  simp only [metadataMatches, Bool.and_eq_true, beq_iff_eq, metadata,
    SnapshotFragment.metadata, SnapshotMetadata.mk.injEq, and_assoc]

theorem snapshotId_of_metadata {active : Assembly} {fragment : SnapshotFragment}
    (h : active.metadata = fragment.metadata) :
    active.snapshotId = fragment.snapshotId :=
  congrArg SnapshotMetadata.snapshotId h

end Assembly

namespace SnapshotReassembler

/-! ## What one fragment can do -/

/-- The state before a fragment is placed and the collection it goes to: a new
one for a newer snapshot, otherwise the active one of its own metadata. -/
inductive Collects (state : SnapshotReassembler) (fragment : SnapshotFragment) :
    SnapshotReassembler → Assembly → Prop
  | newer (h : state.isNewer fragment.snapshotId = true) :
    Collects state fragment { state.noteReplacement fragment.snapshotId with
      highestSnapshotId := some fragment.snapshotId } (.start fragment)
  | active {active : Assembly} (hnewer : state.isNewer fragment.snapshotId = false)
    (hactive : state.active = some active)
    (hmetadata : active.metadata = fragment.metadata) :
    Collects state fragment state active

/-- Everything that can become of a collection when a fragment is placed. -/
inductive Places (base : SnapshotReassembler) (active : Assembly)
    (fragment : SnapshotFragment) :
    SnapshotReassembler × Option ReassembledPayload → Prop
  | repeated (h : active.destination fragment = some fragment.bytes) :
    Places base active fragment ({ base with active := some active }, none)
  | poisoned : Places base active fragment (base.poison, none)
  | stored (h : active.destination fragment = none) :
    Places base active fragment
      ({ base with active := some (active.store fragment) }, none)
  | finished (h : active.destination fragment = none)
    (hcomplete : (active.store fragment).complete = true)
    (hlength : (active.store fragment).payload.length =
      active.fullPayloadBytes.toNat)
    (hcrc : crc32 (active.store fragment).payload = active.fullPayloadCrc32) :
    Places base active fragment ({ base with active := none }, some {
      snapshotId := active.snapshotId
      serverTick := active.serverTick
      ackInputSequence := active.ackInputSequence
      bytes := (active.store fragment).payload })

/-- Everything a fragment can do. -/
inductive Pushes (state : SnapshotReassembler) (fragment : SnapshotFragment) :
    SnapshotReassembler × Option ReassembledPayload → Prop
  | ignored (h : state.isNewer fragment.snapshotId = false) :
    Pushes state fragment (state, none)
  | discarded (h : state.isNewer fragment.snapshotId = true) :
    Pushes state fragment ({ state.noteReplacement fragment.snapshotId with
      highestSnapshotId := some fragment.snapshotId, active := none }, none)
  | poisoned (h : state.isNewer fragment.snapshotId = false) :
    Pushes state fragment (state.poison, none)
  | placed {base : SnapshotReassembler} {active : Assembly}
    {result : SnapshotReassembler × Option ReassembledPayload}
    (hcollects : state.Collects fragment base active)
    (hplaces : Places base active fragment result) :
    Pushes state fragment result

theorem place_places (base : SnapshotReassembler) (active : Assembly)
    (fragment : SnapshotFragment) :
    Places base active fragment (base.place active fragment) := by
  unfold place
  split
  · rename_i bytes hdestination
    split
    · exact .poisoned
    · rename_i hbytes
      rw [not_not.mp hbytes] at hdestination
      exact .repeated hdestination
  · rename_i hdestination
    dsimp only
    split
    · rename_i hcomplete
      unfold finish
      dsimp only
      split
      · exact .poisoned
      · rename_i hsame
        simp only [Bool.or_eq_true, decide_eq_true_eq, not_or, not_not] at hsame
        exact .finished hdestination hcomplete hsame.1 hsame.2
    · exact .stored hdestination

/-- A valid fragment is placed where it belongs. -/
theorem Collects.pushBytes_eq {state base : SnapshotReassembler} {active : Assembly}
    {fragment : SnapshotFragment} (h : state.Collects fragment base active)
    (hvalid : fragment.Valid) (hold : state.isOlder fragment.snapshotId = false) :
    state.pushBytes fragment = base.place active fragment := by
  have hpasses : validFragment fragment = true := isValidFragment_iff.mpr hvalid
  unfold pushBytes
  rw [hpasses, hold]
  cases h with
  | newer hnewer => simp only [hnewer, Bool.not_true, Bool.false_eq_true, if_false, if_true]
  | active hnewer hactive hmetadata =>
    simp only [hnewer, hactive, Assembly.metadataMatches_iff.mpr hmetadata,
      Bool.not_true, Bool.false_eq_true, if_false, if_true]

theorem isOlder_eq_false_of_isNewer {state : SnapshotReassembler} {snapshotId : UInt32}
    (h : state.isNewer snapshotId = true) : state.isOlder snapshotId = false := by
  unfold isNewer at h
  unfold isOlder
  cases hhighest : state.highestSnapshotId with
  | none => rfl
  | some highest =>
    rw [hhighest, Option.elim_some, decide_eq_true_eq] at h
    rw [Option.elim_some, decide_eq_false_iff_not]
    exact lt_asymm h

theorem pushBytes_pushes (state : SnapshotReassembler) (fragment : SnapshotFragment) :
    state.Pushes fragment (state.pushBytes fragment) := by
  cases hvalid : validFragment fragment with
  | false =>
    unfold pushBytes
    simp only [hvalid, Bool.not_false, if_true]
    split
    · rename_i hnewer
      exact .discarded hnewer
    · rename_i hnewer
      exact .ignored (Bool.eq_false_of_not_eq_true hnewer)
  | true =>
    cases hnewer : state.isNewer fragment.snapshotId with
    | true =>
      have hcollects := Collects.newer hnewer
      rw [hcollects.pushBytes_eq (isValidFragment_iff.mp hvalid)
        (isOlder_eq_false_of_isNewer hnewer)]
      exact .placed hcollects (place_places _ _ _)
    | false =>
      unfold pushBytes
      simp only [hvalid, hnewer, Bool.not_true, Bool.false_eq_true, if_false]
      split
      · exact .ignored hnewer
      · split
        · exact .ignored hnewer
        · rename_i active hactive
          split
          · rename_i hmetadata
            exact .placed (.active hnewer hactive
              (Assembly.metadataMatches_iff.mp hmetadata)) (place_places _ _ _)
          · exact .poisoned hnewer

theorem noteReplacement_recoveryNeeded {state : SnapshotReassembler}
    {snapshotId : UInt32} (h : state.recoveryNeeded = true) :
    (state.noteReplacement snapshotId).recoveryNeeded = true := by
  unfold noteReplacement
  split
  · exact h
  · dsimp only
    split
    · rfl
    · exact h

/-- Replacing an unfinished snapshot asks for recovery. -/
theorem noteReplacement_active {state : SnapshotReassembler} {snapshotId : UInt32}
    (hhighest : state.highestSnapshotId.isSome = true)
    (hactive : state.active.isSome = true) :
    (state.noteReplacement snapshotId).recoveryNeeded = true := by
  obtain ⟨highest, hhighest⟩ := Option.isSome_iff_exists.mp hhighest
  simp only [noteReplacement, hhighest, hactive, Bool.true_or, if_true]

theorem lt_of_isNewer {state : SnapshotReassembler} {snapshotId highest : UInt32}
    (h : state.isNewer snapshotId = true)
    (hhighest : state.highestSnapshotId = some highest) : highest < snapshotId := by
  rw [isNewer, hhighest, Option.elim_some, decide_eq_true_eq] at h
  exact h

theorem not_lt_of_isNewer_eq_false {state : SnapshotReassembler}
    {snapshotId highest : UInt32} (h : state.isNewer snapshotId = false)
    (hhighest : state.highestSnapshotId = some highest) : ¬highest < snapshotId := by
  rw [isNewer, hhighest, Option.elim_some, decide_eq_false_iff_not] at h
  exact h

/-! ## Runs -/

/-- The payloads among the replies. -/
def payloads (replies : List ReassemblerReply) : List ReassembledPayload :=
  replies.filterMap fun
    | .payload payload => payload
    | .recoveryNeeded _ => none

theorem payloads_append (first second : List ReassemblerReply) :
    payloads (first ++ second) = payloads first ++ payloads second :=
  List.filterMap_append

@[simp]
theorem payloads_payload (payload : Option ReassembledPayload) :
    payloads [.payload payload] = payload.toList := by
  cases payload <;> rfl

/-- Received fragments of one snapshot, one for each number, make up the payload. -/
def AssembledFrom (calls : List ReassemblerCall) (payload : ReassembledPayload) :
    Prop :=
  ∃ (metadata : SnapshotMetadata) (parts : List SnapshotFragment),
    payload.snapshotId = metadata.snapshotId ∧
    payload.serverTick = metadata.serverTick ∧
    payload.ackInputSequence = metadata.ackInputSequence ∧
    (∀ part ∈ parts,
      ReassemblerCall.pushBytes part ∈ calls ∧ part.metadata = metadata) ∧
    (parts.map fun part => part.fragmentIndex.toNat) =
      List.range metadata.fragmentCount.toNat ∧
    payload.bytes = (parts.map SnapshotFragment.bytes).flatten ∧
    payload.bytes.length = metadata.fullPayloadBytes.toNat ∧
    crc32 payload.bytes = metadata.fullPayloadCrc32

/-- Every stored piece was received in a fragment of the collection's metadata. -/
structure Collected (calls : List ReassemblerCall) (active : Assembly) : Prop where
  length : active.fragments.length = active.fragmentCount.toNat
  received : ∀ index bytes, active.fragments[index]? = some (some bytes) →
    ∃ part : SnapshotFragment,
      (ReassemblerCall.pushBytes part ∈ calls ∧ part.metadata = active.metadata) ∧
        part.fragmentIndex.toNat = index ∧ part.bytes = bytes

theorem Collected.mono {calls more : List ReassemblerCall} {active : Assembly}
    (h : Collected calls active) : Collected (calls ++ more) active where
  length := h.length
  received index bytes hindex := by
    obtain ⟨part, ⟨hcall, hmetadata⟩, hpart⟩ := h.received index bytes hindex
    exact ⟨part, ⟨List.mem_append_left more hcall, hmetadata⟩, hpart⟩

theorem collected_start (calls : List ReassemblerCall) (fragment : SnapshotFragment) :
    Collected calls (.start fragment) where
  length := List.length_replicate
  received index bytes hindex := by
    rw [Assembly.start, List.getElem?_replicate] at hindex
    split at hindex <;> simp at hindex

theorem Collected.store {calls : List ReassemblerCall} {active : Assembly}
    {fragment : SnapshotFragment} (h : Collected calls active)
    (hmetadata : active.metadata = fragment.metadata) :
    Collected (calls ++ [.pushBytes fragment]) (active.store fragment) where
  length := by
    rw [Assembly.store, List.length_set]
    exact h.length
  received index bytes hindex := by
    rw [Assembly.store, List.getElem?_set] at hindex
    split at hindex
    · rename_i hsame
      split at hindex
      · obtain rfl := Option.some.inj (Option.some.inj hindex)
        exact ⟨fragment, ⟨List.mem_append_right calls (List.mem_singleton.mpr rfl),
          hmetadata.symm⟩, hsame, rfl⟩
      · cases hindex
    · have hmore : Collected (calls ++ [.pushBytes fragment]) active := h.mono
      exact hmore.received index bytes hindex

theorem Collected.assembledFrom {calls : List ReassemblerCall} {active : Assembly}
    (h : Collected calls active) (hcomplete : active.complete = true)
    (hlength : active.payload.length = active.fullPayloadBytes.toNat)
    (hcrc : crc32 active.payload = active.fullPayloadCrc32) :
    AssembledFrom calls {
      snapshotId := active.snapshotId
      serverTick := active.serverTick
      ackInputSequence := active.ackInputSequence
      bytes := active.payload } := by
  obtain ⟨parts, hparts, hnumbers, hvalues⟩ :=
    Fragments.exists_parts hcomplete h.received
  refine ⟨active.metadata, parts, rfl, rfl, rfl, hparts, ?_, ?_, hlength, hcrc⟩
  · rw [hnumbers, h.length]
    rfl
  · rw [hvalues]
    rfl

/-- What holds of the calls, the replies and the state so far. -/
structure Sound (calls : List ReassemblerCall) (replies : List ReassemblerReply)
    (state : SnapshotReassembler) : Prop where
  highest : ∀ active, state.active = some active →
    state.highestSnapshotId = some active.snapshotId
  collected : ∀ active, state.active = some active → Collected calls active
  reached : ∀ payload ∈ payloads replies, ∃ highest,
    state.highestSnapshotId = some highest ∧ payload.snapshotId ≤ highest
  finished : ∀ payload ∈ payloads replies, ∀ active, state.active = some active →
    payload.snapshotId < active.snapshotId
  increasing : (payloads replies).Pairwise fun earlier later =>
    earlier.snapshotId < later.snapshotId

theorem sound_init : Sound [] [] {} where
  highest active h := by cases h
  collected active h := by cases h
  reached payload h := by cases h
  finished payload h := by cases h
  increasing := List.Pairwise.nil

section Step

variable {calls : List ReassemblerCall} {replies : List ReassemblerReply}
  {state : SnapshotReassembler} {fragment : SnapshotFragment}

/-- A reply without a payload keeps what holds while the collection is kept or
dropped and no newer snapshot was seen. -/
theorem Sound.quiet (h : Sound calls replies state) {call : ReassemblerCall}
    {reply : ReassemblerReply} (hreply : payloads [reply] = [])
    {next : SnapshotReassembler}
    (hhighest : next.highestSnapshotId = state.highestSnapshotId)
    (hactive : next.active = state.active ∨ next.active = none) :
    Sound (calls ++ [call]) (replies ++ [reply]) next := by
  have hpayloads : payloads (replies ++ [reply]) = payloads replies := by
    rw [payloads_append, hreply, List.append_nil]
  have hkept : ∀ active, next.active = some active → state.active = some active := by
    intro active hnext
    rcases hactive with hactive | hactive
    · rw [← hactive]
      exact hnext
    · rw [hactive] at hnext
      cases hnext
  exact {
    highest := fun active hnext => by
      rw [hhighest]
      exact h.highest active (hkept active hnext)
    collected := fun active hnext => (h.collected active (hkept active hnext)).mono
    reached := fun payload hpayload => by
      rw [hhighest]
      exact h.reached payload (hpayloads ▸ hpayload)
    finished := fun payload hpayload active hnext =>
      h.finished payload (hpayloads ▸ hpayload) active (hkept active hnext)
    increasing := by
      rw [hpayloads]
      exact h.increasing }

/-- Every payload so far is of an older snapshot than a newer fragment. -/
theorem Sound.lt_of_isNewer (h : Sound calls replies state) {snapshotId : UInt32}
    (hnewer : state.isNewer snapshotId = true) :
    ∀ payload ∈ payloads replies, payload.snapshotId < snapshotId := by
  intro payload hpayload
  obtain ⟨highest, hhighest, hle⟩ := h.reached payload hpayload
  exact hle.trans_lt (SnapshotReassembler.lt_of_isNewer hnewer hhighest)

/-- The collection a fragment goes to is newer than every payload so far. -/
theorem Collects.sound {base : SnapshotReassembler} {active : Assembly}
    (hcollects : state.Collects fragment base active) (h : Sound calls replies state) :
    base.highestSnapshotId = some active.snapshotId ∧
      active.metadata = fragment.metadata ∧ Collected calls active ∧
      ∀ payload ∈ payloads replies, payload.snapshotId < active.snapshotId := by
  cases hcollects with
  | newer hnewer =>
    exact ⟨rfl, rfl, collected_start calls fragment, h.lt_of_isNewer hnewer⟩
  | active hnewer hactive hmetadata =>
    exact ⟨h.highest active hactive, hmetadata, h.collected active hactive,
      fun payload hpayload => h.finished payload hpayload active hactive⟩

/-- The facts about a collection carry over to the state that keeps it. -/
theorem sound_collecting {base : SnapshotReassembler} {active : Assembly}
    (h : Sound calls replies state)
    (hhighest : base.highestSnapshotId = some active.snapshotId)
    (hnewest : ∀ payload ∈ payloads replies, payload.snapshotId < active.snapshotId)
    {next : Assembly} (hsame : next.snapshotId = active.snapshotId)
    {more : List ReassemblerCall} (hcollected : Collected more next) :
    Sound more (replies ++ [.payload none]) { base with active := some next } := by
  have hpayloads : payloads (replies ++ [.payload none]) = payloads replies := by
    rw [payloads_append]
    exact List.append_nil _
  exact {
    highest := fun other hother => by
      rw [← Option.some.inj hother, hsame]
      exact hhighest
    collected := fun other hother => Option.some.inj hother ▸ hcollected
    reached := fun payload hpayload =>
      ⟨_, hhighest, (hnewest payload (hpayloads ▸ hpayload)).le⟩
    finished := fun payload hpayload other hother => by
      rw [← Option.some.inj hother, hsame]
      exact hnewest payload (hpayloads ▸ hpayload)
    increasing := by
      rw [hpayloads]
      exact h.increasing }

/-- Without a collection only the payloads count. -/
theorem sound_idle {next : SnapshotReassembler} {snapshotId : UInt32}
    (hactive : next.active = none) (hhighest : next.highestSnapshotId = some snapshotId)
    {more : List ReassemblerCall} {outputs : List ReassemblerReply}
    (hreached : ∀ payload ∈ payloads outputs, payload.snapshotId ≤ snapshotId)
    (hincreasing : (payloads outputs).Pairwise fun earlier later =>
      earlier.snapshotId < later.snapshotId) : Sound more outputs next where
  highest active hnext := by rw [hactive] at hnext; cases hnext
  collected active hnext := by rw [hactive] at hnext; cases hnext
  reached payload hpayload := ⟨snapshotId, hhighest, hreached payload hpayload⟩
  finished payload _ active hnext := by rw [hactive] at hnext; cases hnext
  increasing := hincreasing

/-- One fragment keeps what holds, and a payload it completes is newer than all
before and made of received fragments. -/
theorem Pushes.sound {result : SnapshotReassembler × Option ReassembledPayload}
    (hpushes : state.Pushes fragment result) (h : Sound calls replies state) :
    Sound (calls ++ [.pushBytes fragment]) (replies ++ [.payload result.2]) result.1 ∧
      ∀ payload, result.2 = some payload →
        AssembledFrom (calls ++ [.pushBytes fragment]) payload := by
  cases hpushes with
  | ignored hnewer => exact ⟨h.quiet rfl rfl (Or.inl rfl), fun payload hnone => by cases hnone⟩
  | poisoned hnewer =>
    exact ⟨h.quiet rfl rfl (Or.inr rfl), fun payload hnone => by cases hnone⟩
  | discarded hnewer =>
    have hpayloads : payloads (replies ++ [.payload none]) = payloads replies := by
      rw [payloads_append]
      exact List.append_nil _
    refine ⟨sound_idle rfl rfl ?_ ?_, fun payload hnone => by cases hnone⟩
    · intro payload hpayload
      exact (h.lt_of_isNewer hnewer payload (hpayloads ▸ hpayload)).le
    · rw [hpayloads]
      exact h.increasing
  | @placed base active _ hcollects hplaces =>
    obtain ⟨hhighest, hmetadata, hcollected, hnewest⟩ := hcollects.sound h
    have hpayloads : payloads (replies ++ [.payload none]) = payloads replies := by
      rw [payloads_append]
      exact List.append_nil _
    cases hplaces with
    | repeated hdestination =>
      exact ⟨sound_collecting h hhighest hnewest rfl hcollected.mono,
        fun payload hnone => by cases hnone⟩
    | stored hdestination =>
      refine ⟨sound_collecting h hhighest hnewest ?_ (hcollected.store hmetadata),
        fun payload hnone => by cases hnone⟩
      exact rfl
    | poisoned =>
      have hidle : base.poison.active = none := rfl
      refine ⟨sound_idle hidle hhighest ?_ ?_, fun payload hnone => by cases hnone⟩
      · exact fun payload hpayload => (hnewest payload (hpayloads ▸ hpayload)).le
      · rw [hpayloads]
        exact h.increasing
    | finished hdestination hcomplete hlength hcrc =>
      have hidle : ({ base with active := none } : SnapshotReassembler).active = none := rfl
      refine ⟨sound_idle hidle hhighest ?_ ?_, ?_⟩
      · intro payload hpayload
        rw [payloads_append, payloads_payload, List.mem_append] at hpayload
        rcases hpayload with hpayload | hpayload
        · exact (hnewest payload hpayload).le
        · rw [Option.mem_toList.mp hpayload |> Option.some.inj |>.symm]
      · rw [payloads_append, payloads_payload, List.pairwise_append]
        refine ⟨h.increasing, List.pairwise_singleton _ _, ?_⟩
        intro earlier hearlier later hlater
        rw [← Option.some.inj (Option.mem_toList.mp hlater)]
        exact hnewest earlier hearlier
      · intro payload hpayload
        rw [← Option.some.inj hpayload]
        exact (hcollected.store hmetadata).assembledFrom hcomplete hlength hcrc

end Step

theorem call_sound {calls : List ReassemblerCall} {replies : List ReassemblerReply}
    {state : SnapshotReassembler} (next : ReassemblerCall)
    (h : Sound calls replies state) :
    Sound (calls ++ [next]) (replies ++ [(state.call next).2]) (state.call next).1 := by
  cases next with
  | pushBytes fragment => exact ((state.pushBytes_pushes fragment).sound h).1
  | takeRecoveryNeeded => exact h.quiet rfl rfl (Or.inl rfl)

theorem run_sound (calls : List ReassemblerCall) :
    Sound calls (replies call {} calls) (after call {} calls) :=
  after_invariant (fun _ _ _ next h => call_sound next h) sound_init calls

/-! ## Lost snapshots -/

/-- The active collection is of a snapshot. -/
def Collecting (state : SnapshotReassembler) (snapshotId : UInt32) : Prop :=
  ∃ active, state.active = some active ∧ active.snapshotId = snapshotId

/-- A valid fragment finds an empty slot: in a new collection, or in the active one
of its own metadata. -/
def Accepts (state : SnapshotReassembler) (fragment : SnapshotFragment) : Prop :=
  fragment.Valid ∧ (state.isNewer fragment.snapshotId = true ∨
    ∃ active, state.active = some active ∧ active.metadata = fragment.metadata ∧
      active.destination fragment = none)

/-- Recovery is still asked for after the calls, or one of them reported it. -/
def ReportsRecovery (state : SnapshotReassembler) (calls : List ReassemblerCall) :
    Prop :=
  (after call state calls).recoveryNeeded = true ∨
    ReassemblerReply.recoveryNeeded true ∈ replies call state calls

section Places

variable {base : SnapshotReassembler} {active : Assembly}
  {fragment : SnapshotFragment}
  {result : SnapshotReassembler × Option ReassembledPayload}

theorem Places.recoveryNeeded (h : Places base active fragment result)
    (hbase : base.recoveryNeeded = true) : result.1.recoveryNeeded = true := by
  cases h with
  | poisoned => rfl
  | repeated | stored | finished => exact hbase

theorem Places.collecting (h : Places base active fragment result)
    {snapshotId : UInt32} (hresult : result.1.Collecting snapshotId) :
    active.snapshotId = snapshotId := by
  obtain ⟨next, hnext, hid⟩ := hresult
  cases h with
  | repeated | stored =>
    obtain rfl := Option.some.inj hnext
    exact hid
  | poisoned | finished => cases hnext

/-- A placed fragment's snapshot stays active, is output, or is given up with
recovery asked for. -/
theorem Places.outcome (h : Places base active fragment result) :
    result.1.Collecting active.snapshotId ∨
      (∃ payload, result.2 = some payload ∧
        payload.snapshotId = active.snapshotId) ∨
      result.1.recoveryNeeded = true ∧ ¬result.1.Collecting active.snapshotId := by
  cases h with
  | repeated => exact Or.inl ⟨active, rfl, rfl⟩
  | stored => exact Or.inl ⟨active.store fragment, rfl, rfl⟩
  | finished => exact Or.inr (Or.inl ⟨_, rfl, rfl⟩)
  | poisoned =>
    refine Or.inr (Or.inr ⟨rfl, ?_⟩)
    rintro ⟨next, hnext, -⟩
    cases hnext

end Places

/-- An active snapshot stays active while no newer one is seen, is output, or is
given up with recovery asked for. -/
theorem Pushes.outcome {calls : List ReassemblerCall}
    {replies : List ReassemblerReply} {state : SnapshotReassembler}
    {fragment : SnapshotFragment}
    {result : SnapshotReassembler × Option ReassembledPayload}
    (hpushes : state.Pushes fragment result) (h : Sound calls replies state)
    {snapshotId : UInt32} (hcollecting : state.Collecting snapshotId) :
    (result.1.Collecting snapshotId ∧ ¬snapshotId < fragment.snapshotId) ∨
      (∃ payload, result.2 = some payload ∧ payload.snapshotId = snapshotId) ∨
      result.1.recoveryNeeded = true ∧ ¬result.1.Collecting snapshotId := by
  obtain ⟨active, hactive, rfl⟩ := hcollecting
  have hhighest := h.highest active hactive
  have hreplaced : (state.noteReplacement fragment.snapshotId).recoveryNeeded =
      true :=
    noteReplacement_active (by rw [hhighest]; rfl) (by rw [hactive]; rfl)
  cases hpushes with
  | ignored hnewer =>
    exact Or.inl ⟨⟨active, hactive, rfl⟩,
      not_lt_of_isNewer_eq_false hnewer hhighest⟩
  | discarded hnewer =>
    refine Or.inr (Or.inr ⟨hreplaced, ?_⟩)
    rintro ⟨next, hnext, -⟩
    cases hnext
  | poisoned hnewer =>
    refine Or.inr (Or.inr ⟨rfl, ?_⟩)
    rintro ⟨next, hnext, -⟩
    cases hnext
  | placed hcollects hplaces =>
    cases hcollects with
    | newer hnewer =>
      refine Or.inr (Or.inr ⟨hplaces.recoveryNeeded hreplaced, fun hkept => ?_⟩)
      have hlt := SnapshotReassembler.lt_of_isNewer hnewer hhighest
      exact hlt.ne' (hplaces.collecting hkept)
    | active hnewer hsame hmetadata =>
      obtain rfl := Option.some.inj (hactive.symm.trans hsame)
      rcases hplaces.outcome with hkept | houtput | hlost
      · exact Or.inl ⟨hkept, not_lt_of_isNewer_eq_false hnewer hhighest⟩
      · exact Or.inr (Or.inl houtput)
      · exact Or.inr (Or.inr hlost)

/-- The snapshot of an accepted fragment is active, output, or given up with
recovery asked for. -/
theorem Accepts.outcome {calls : List ReassemblerCall}
    {replies : List ReassemblerReply} {state : SnapshotReassembler}
    {fragment : SnapshotFragment} (haccepts : state.Accepts fragment)
    (h : Sound calls replies state) :
    (state.pushBytes fragment).1.Collecting fragment.snapshotId ∨
      (∃ payload, (state.pushBytes fragment).2 = some payload ∧
        payload.snapshotId = fragment.snapshotId) ∨
      (state.pushBytes fragment).1.recoveryNeeded = true ∧
        ¬(state.pushBytes fragment).1.Collecting fragment.snapshotId := by
  obtain ⟨hvalid, hplace⟩ := haccepts
  have hcollects : ∃ base active, state.Collects fragment base active ∧
      state.isOlder fragment.snapshotId = false ∧
      active.snapshotId = fragment.snapshotId := by
    cases hnewer : state.isNewer fragment.snapshotId with
    | true => exact ⟨_, _, .newer hnewer, isOlder_eq_false_of_isNewer hnewer, rfl⟩
    | false =>
      rcases hplace with hplace | ⟨active, hactive, hmetadata, -⟩
      · rw [hnewer] at hplace
        cases hplace
      · have hid := Assembly.snapshotId_of_metadata hmetadata
        refine ⟨state, active, .active hnewer hactive hmetadata, ?_, hid⟩
        rw [isOlder, h.highest active hactive, Option.elim_some, hid]
        exact decide_eq_false (lt_irrefl _)
  obtain ⟨base, active, hcollects, hold, hid⟩ := hcollects
  rw [hcollects.pushBytes_eq hvalid hold, ← hid]
  exact (place_places base active fragment).outcome

theorem Pushes.recoveryNeeded {state : SnapshotReassembler}
    {fragment : SnapshotFragment}
    {result : SnapshotReassembler × Option ReassembledPayload}
    (hpushes : state.Pushes fragment result) (h : state.recoveryNeeded = true) :
    result.1.recoveryNeeded = true := by
  cases hpushes with
  | ignored => exact h
  | discarded => exact noteReplacement_recoveryNeeded h
  | poisoned => rfl
  | placed hcollects hplaces =>
    cases hcollects with
    | newer => exact hplaces.recoveryNeeded (noteReplacement_recoveryNeeded h)
    | active => exact hplaces.recoveryNeeded h

/-- Once recovery is asked for, it stays so until it is reported. -/
theorem reportsRecovery_of_recoveryNeeded {state : SnapshotReassembler}
    (h : state.recoveryNeeded = true) (calls : List ReassemblerCall) :
    state.ReportsRecovery calls := by
  induction calls generalizing state with
  | nil => exact Or.inl h
  | cons next calls ih =>
    cases next with
    | pushBytes fragment =>
      have hnext := (state.pushBytes_pushes fragment).recoveryNeeded h
      exact (ih hnext).imp_right (List.mem_cons_of_mem _)
    | takeRecoveryNeeded =>
      refine Or.inr ?_
      change _ ∈ ReassemblerReply.recoveryNeeded state.recoveryNeeded :: _
      rw [h]
      exact List.mem_cons_self

/-- The calls split where the snapshot is given up: there recovery is asked for,
and the rest of the calls reports it or leaves it asked for. -/
def LostIn (state : SnapshotReassembler) (snapshotId : UInt32)
    (calls : List ReassemblerCall) : Prop :=
  ∃ first second, calls = first ++ second ∧
    ¬(after call state first).Collecting snapshotId ∧
    (after call state first).recoveryNeeded = true ∧
    (after call state first).ReportsRecovery second

theorem lostIn_of_recoveryNeeded {state : SnapshotReassembler} {snapshotId : UInt32}
    (h : state.recoveryNeeded = true ∧ ¬state.Collecting snapshotId)
    (calls : List ReassemblerCall) : state.LostIn snapshotId calls :=
  ⟨[], calls, rfl, h.2, h.1, reportsRecovery_of_recoveryNeeded h.1 calls⟩

theorem LostIn.cons {state : SnapshotReassembler} {snapshotId : UInt32}
    {next : ReassemblerCall} {calls : List ReassemblerCall}
    (h : (state.call next).1.LostIn snapshotId calls) :
    state.LostIn snapshotId (next :: calls) := by
  obtain ⟨first, second, rfl, hlost⟩ := h
  exact ⟨next :: first, second, rfl, hlost⟩

/-- An active snapshot that is never output is lost once a newer one is seen. -/
theorem Sound.lostIn {calls : List ReassemblerCall}
    {outputs : List ReassemblerReply} {state : SnapshotReassembler}
    (h : Sound calls outputs state) {snapshotId : UInt32}
    (hcollecting : state.Collecting snapshotId) {later : List ReassemblerCall}
    (hnone : ∀ payload ∈ payloads (replies call state later),
      payload.snapshotId ≠ snapshotId)
    (hnewer : ∃ newer : SnapshotFragment, ReassemblerCall.pushBytes newer ∈ later ∧
      snapshotId < newer.snapshotId) : state.LostIn snapshotId later := by
  induction later generalizing calls outputs state with
  | nil =>
    obtain ⟨newer, hmem, -⟩ := hnewer
    cases hmem
  | cons next later ih =>
    have hpayloads : payloads (replies call state (next :: later)) =
        payloads [(state.call next).2] ++
          payloads (replies call (state.call next).1 later) :=
      payloads_append [_] _
    rw [hpayloads] at hnone
    have hnone' : ∀ payload ∈ payloads (replies call (state.call next).1 later),
        payload.snapshotId ≠ snapshotId := fun payload hpayload =>
      hnone payload (List.mem_append_right _ hpayload)
    have hsound := call_sound next h
    obtain ⟨newer, hmem, hlt⟩ := hnewer
    apply LostIn.cons
    cases next with
    | takeRecoveryNeeded =>
      rcases List.mem_cons.mp hmem with heq | hmem
      · cases heq
      · exact ih hsound hcollecting hnone' ⟨newer, hmem, hlt⟩
    | pushBytes fragment =>
      rcases (state.pushBytes_pushes fragment).outcome h hcollecting with
        ⟨hkept, hle⟩ | ⟨payload, hpayload, hid⟩ | hlost
      · rcases List.mem_cons.mp hmem with heq | hmem
        · cases heq
          exact absurd hlt hle
        · exact ih hsound hkept hnone' ⟨newer, hmem, hlt⟩
      · refine absurd hid (hnone payload (List.mem_append_left _ ?_))
        change payload ∈ payloads [.payload (state.pushBytes fragment).2]
        rw [hpayload]
        exact List.mem_singleton.mpr rfl
      · exact lostIn_of_recoveryNeeded hlost later

/-- The reassembler over any sequence of calls and one more fragment: the ids of
the payloads increase, a payload is made of received fragments, and when the
fragment is accepted but its snapshot is never output, the first newer fragment
finds the snapshot given up and recovery asked for. -/
theorem run_reassembles (calls : List ReassemblerCall) (fragment : SnapshotFragment) :
    ((payloads (replies call {} (calls ++ [.pushBytes fragment]))).Pairwise
      fun earlier later => earlier.snapshotId < later.snapshotId) ∧
    (∀ payload, ((after call {} calls).pushBytes fragment).2 = some payload →
      AssembledFrom (calls ++ [.pushBytes fragment]) payload) ∧
    ((after call {} calls).Accepts fragment →
      ∀ later : List ReassemblerCall,
        (∀ payload ∈ payloads (replies call (after call {} calls)
          (.pushBytes fragment :: later)),
            payload.snapshotId ≠ fragment.snapshotId) →
        (∃ newer : SnapshotFragment, ReassemblerCall.pushBytes newer ∈ later ∧
          fragment.snapshotId < newer.snapshotId) →
        ((after call {} calls).pushBytes fragment).1.LostIn fragment.snapshotId
          later) := by
  have hsound := run_sound calls
  refine ⟨(run_sound _).increasing, ?_, ?_⟩
  · exact ((pushBytes_pushes _ fragment).sound hsound).2
  · intro haccepts later hnone hnewer
    have hpayloads : payloads (replies call (after call {} calls)
        (.pushBytes fragment :: later)) =
          ((after call {} calls).pushBytes fragment).2.toList ++ payloads (replies call
            ((after call {} calls).pushBytes fragment).1 later) := by
      rw [← payloads_payload]
      exact payloads_append [_] _
    rw [hpayloads] at hnone
    rcases haccepts.outcome hsound with hkept | ⟨payload, hpayload, hid⟩ | hlost
    · exact (call_sound (.pushBytes fragment) hsound).lostIn hkept
        (fun payload hmem => hnone payload (List.mem_append_right _ hmem)) hnewer
    · refine absurd hid (hnone payload (List.mem_append_left _ ?_))
      rw [hpayload]
      exact List.mem_singleton.mpr rfl
    · exact lostIn_of_recoveryNeeded hlost later

end SnapshotReassembler

end SurvivalArena
