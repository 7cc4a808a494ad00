import SurvivalArena.Replication.ReassemblerRun

/-!
# Fragmentation and reassembly

The fragments of one payload, received in any order and any number of times,
give the payload back when the last missing one arrives.
-/

namespace SurvivalArena

open Wire Machine Fragments SnapshotReassembler

/-- A fragment travels in one datagram and is decoded as it was sent. -/
def SnapshotFragment.Travels (fragment : SnapshotFragment) : Prop :=
  ∃ datagram, encodeServerDatagram (.snapshotFragment fragment) = .ok datagram ∧
    datagram.bytes.length ≤ maxUdpDatagramBytes ∧
    decodeServerDatagram datagram.bytes = .ok (.snapshotFragment fragment)

theorem SnapshotFragment.Valid.travels {fragment : SnapshotFragment}
    (h : fragment.Valid) : fragment.Travels := by
  obtain ⟨datagram, hencode⟩ := h.encodes
  exact ⟨datagram, hencode, decodeServerDatagram_encode hencode⟩

/-- A fresh reassembler that receives any of the fragments outputs the payload once,
with the fragment after which none is missing. -/
def Reassembles (fragments : List SnapshotFragment) (payload : ReassembledPayload) :
    Prop :=
  ∀ arrived : List SnapshotFragment, (∀ fragment ∈ arrived, fragment ∈ fragments) →
    payloads (replies call {} (arrived.map .pushBytes)) =
        (if ∀ fragment ∈ fragments, fragment ∈ arrived then [payload] else []) ∧
      ∀ last ∈ fragments,
        ((after call {} (arrived.map .pushBytes)).pushBytes last).2 =
          if (∀ fragment ∈ fragments, fragment ∈ arrived ++ [last]) ∧
              ¬∀ fragment ∈ fragments, fragment ∈ arrived then some payload
          else none

/-- A snapshot that can be cut into fragments. -/
structure OutgoingSnapshot where
  matchId : MatchId
  snapshotId : UInt32
  serverTick : UInt32
  ackInputSequence : UInt32
  fullPayload : Bytes
  identified : snapshotId ≠ 0
  nonempty : 0 < fullPayload.length
  limited : fullPayload.length ≤ maxSnapshotPayloadBytes

namespace OutgoingSnapshot

variable (sent : OutgoingSnapshot)

def total : Nat :=
  count maxSnapshotFragmentPayloadBytes sent.fullPayload.length

def fragment (index : Nat) : SnapshotFragment :=
  fragmentAt sent.matchId sent.snapshotId sent.serverTick sent.ackInputSequence
    sent.fullPayload index

def fragments : List SnapshotFragment :=
  (List.range sent.total).map sent.fragment

def payload : ReassembledPayload where
  snapshotId := sent.snapshotId
  serverTick := sent.serverTick
  ackInputSequence := sent.ackInputSequence
  bytes := sent.fullPayload

/-- The collection with some fragments received. -/
def collection (received : Nat → Bool) : Assembly :=
  { Assembly.start (sent.fragment 0) with
    fragments := slots (piece maxSnapshotFragmentPayloadBytes sent.fullPayload)
      received sent.total }

/-- No fragment is missing. -/
def Full (received : Nat → Bool) : Prop :=
  ∀ index < sent.total, received index = true

instance (received : Nat → Bool) : Decidable (sent.Full received) :=
  inferInstanceAs (Decidable (∀ index < sent.total, received index = true))

/-- The reassembler that received some fragments of the snapshot and no other. -/
def progress (received : Nat → Bool) : SnapshotReassembler :=
  if sent.Full received then
    { highestSnapshotId := some sent.snapshotId }
  else if ∃ index < sent.total, received index = true then
    { highestSnapshotId := some sent.snapshotId
      active := some (sent.collection received) }
  else {}

/-! ## The fragments -/

variable {sent}

theorem total_le : sent.total ≤ maxSnapshotFragments :=
  fragmentCount_le sent.limited

theorem total_pos : 0 < sent.total :=
  count_pos (by decide) sent.nonempty

theorem fragment_valid {index : Nat} (h : index < sent.total) :
    (sent.fragment index).Valid :=
  fragmentAt_valid sent.identified sent.nonempty sent.limited h

theorem fragment_index {index : Nat} (h : index < sent.total) :
    (sent.fragment index).fragmentIndex.toNat = index :=
  UInt16.toNat_ofNat_of_lt' ((h.trans_le total_le).trans (by decide))

theorem fragment_inj {first second : Nat} (hfirst : first < sent.total)
    (hsecond : second < sent.total) :
    sent.fragment first = sent.fragment second ↔ first = second := by
  refine ⟨fun h => ?_, fun h => h ▸ rfl⟩
  rw [← fragment_index hfirst, h, fragment_index hsecond]

theorem mem_fragments {fragment : SnapshotFragment} :
    fragment ∈ sent.fragments ↔
      ∃ index < sent.total, sent.fragment index = fragment := by
  simp only [fragments, List.mem_map, List.mem_range]

/-! ## One fragment -/

theorem collection_empty {received : Nat → Bool}
    (h : ∀ index, index < sent.total → received index = false) (index : Nat) :
    Assembly.start (sent.fragment index) = sent.collection received := by
  have hvalid : (sent.fragment 0).Valid := fragment_valid total_pos
  have hcount := hvalid.count
  have hlength : (sent.fragment 0).fullPayloadBytes.toNat =
      sent.fullPayload.length :=
    UInt32.toNat_ofNat_of_lt' (sent.limited.trans_lt (by decide))
  rw [hlength] at hcount
  rw [collection, slots_empty h]
  change Assembly.start (sent.fragment 0) = _
  rw [Assembly.start, hcount]
  rfl

theorem destination_collection {received : Nat → Bool} {index : Nat}
    (h : index < sent.total) :
    (sent.collection received).destination (sent.fragment index) =
      if received index then some (sent.fragment index).bytes else none := by
  rw [Assembly.destination, fragment_index h, collection, getElem?_slots h, fragment,
    fragmentAt_bytes]
  rfl

theorem store_collection {received : Nat → Bool} {index : Nat}
    (h : index < sent.total) :
    (sent.collection received).store (sent.fragment index) =
      sent.collection (receive received index) := by
  rw [Assembly.store, fragment_index h, fragment, fragmentAt_bytes]
  simp only [collection, set_slots]

theorem complete_collection {received : Nat → Bool} :
    (sent.collection received).complete = true ↔
      sent.Full received :=
  all_isSome_slots

/-- A full collection holds the payload. -/
theorem payload_collection {received : Nat → Bool}
    (h : sent.Full received) :
    (sent.collection received).payload = sent.fullPayload := by
  rw [Assembly.payload, collection, reduceOption_slots h, ← List.flatMap_def]
  exact flatMap_piece_count (by decide) sent.fullPayload

/-- The fragment that completes the collection outputs the payload. -/
theorem finish_collection (base : SnapshotReassembler) {received : Nat → Bool}
    (h : sent.Full received) :
    base.finish (sent.collection received) =
      ({ base with active := none }, some sent.payload) := by
  have hlength : (sent.collection received).fullPayloadBytes.toNat =
      sent.fullPayload.length :=
    UInt32.toNat_ofNat_of_lt' (sent.limited.trans_lt (by decide))
  have hcrc : (sent.collection received).fullPayloadCrc32 = crc32 sent.fullPayload :=
    rfl
  rw [finish, payload_collection h, hlength, hcrc]
  simp only [ne_eq, not_true_eq_false, decide_false, Bool.or_self, Bool.false_eq_true,
    if_false]
  rfl

theorem progress_all {received : Nat → Bool}
    (h : sent.Full received) :
    sent.progress received = { highestSnapshotId := some sent.snapshotId } :=
  if_pos h

theorem progress_some {received : Nat → Bool}
    (hall : ¬sent.Full received) {index : Nat}
    (hindex : index < sent.total) (hreceived : received index = true) :
    sent.progress received =
      { highestSnapshotId := some sent.snapshotId
        active := some (sent.collection received) } := by
  rw [progress, if_neg hall, if_pos ⟨index, hindex, hreceived⟩]

theorem progress_none {received : Nat → Bool}
    (h : ∀ index, index < sent.total → received index = false) :
    sent.progress received = {} := by
  rw [progress, if_neg, if_neg]
  · rintro ⟨index, hindex, hreceived⟩
    rw [h index hindex] at hreceived
    cases hreceived
  · intro hall
    have hfirst := hall 0 total_pos
    rw [h 0 total_pos] at hfirst
    cases hfirst

/-- A fragment placed into an unfinished collection without it. -/
theorem place_collection {base : SnapshotReassembler}
    (hbase : base.highestSnapshotId = some sent.snapshotId)
    (hquiet : base.recoveryNeeded = false) {received : Nat → Bool} {index : Nat}
    (hindex : index < sent.total) (hmissing : received index = false) :
    base.place (sent.collection received) (sent.fragment index) =
      (sent.progress (receive received index),
        if sent.Full (receive received index) then
          some sent.payload else none) := by
  have hself : receive received index index = true :=
    receive_eq_true.mpr (Or.inr rfl)
  rw [place, destination_collection hindex, hmissing]
  simp only [Bool.false_eq_true, if_false, store_collection hindex,
    complete_collection]
  by_cases hall : sent.Full (receive received index)
  · rw [if_pos hall, if_pos hall, finish_collection base hall, progress_all hall,
      hbase, hquiet]
  · rw [if_neg hall, if_neg hall, progress_some hall hindex hself, hbase, hquiet]

/-- One more fragment outputs the payload exactly when it is the last one missing. -/
theorem pushBytes_progress {received : Nat → Bool} {index : Nat}
    (hindex : index < sent.total) :
    (sent.progress received).pushBytes (sent.fragment index) =
      (sent.progress (receive received index),
        if sent.Full (receive received index) ∧
            ¬sent.Full received then some sent.payload
        else none) := by
  have hvalid : (sent.fragment index).Valid := fragment_valid hindex
  have hsame : ∀ state : SnapshotReassembler,
      state.highestSnapshotId = some sent.snapshotId →
        state.isNewer (sent.fragment index).snapshotId = false ∧
          state.isOlder (sent.fragment index).snapshotId = false := by
    intro state hhighest
    rw [isNewer, isOlder, hhighest]
    exact ⟨decide_eq_false (lt_irrefl _), decide_eq_false (lt_irrefl _)⟩
  by_cases hall : sent.Full received
  · rw [receive_of_received (hall index hindex), progress_all hall,
      if_neg fun h => h.2 hall]
    obtain ⟨hnewer, hold⟩ := hsame { highestSnapshotId := some sent.snapshotId } rfl
    unfold pushBytes
    rw [validFragment, isValidFragment_iff.mpr hvalid, hnewer, hold]
    rfl
  · simp only [hall, not_false_eq_true, and_true]
    by_cases hnone : ∀ other < sent.total, received other = false
    · have hnewer : ({} : SnapshotReassembler).isNewer
          (sent.fragment index).snapshotId = true := rfl
      rw [progress_none hnone, (Collects.newer hnewer).pushBytes_eq hvalid rfl,
        collection_empty hnone index]
      exact place_collection rfl rfl hindex (hnone index hindex)
    · obtain ⟨other, hother, hreceived⟩ : ∃ other < sent.total,
          received other = true := by
        simpa using hnone
      rw [progress_some hall hother hreceived]
      obtain ⟨hnewer, hold⟩ := hsame {
        highestSnapshotId := some sent.snapshotId
        active := some (sent.collection received) } rfl
      have hcollects := Collects.active hnewer rfl
        (rfl : (sent.collection received).metadata = (sent.fragment index).metadata)
      rw [hcollects.pushBytes_eq hvalid hold]
      cases hmissing : received index with
      | false => exact place_collection rfl rfl hindex hmissing
      | true =>
        rw [receive_of_received hmissing, if_neg hall,
          progress_some hall hother hreceived, place,
          destination_collection hindex, if_pos hmissing]
        simp only [ne_eq, not_true_eq_false, if_false]

/-! ## All fragments -/

/-- The numbers received after a sequence of fragments. -/
def arrivals (received : Nat → Bool) (indices : List Nat) : Nat → Bool :=
  indices.foldl receive received

theorem arrivals_eq_true {received : Nat → Bool} {indices : List Nat} {other : Nat} :
    arrivals received indices other = true ↔
      received other = true ∨ other ∈ indices := by
  induction indices generalizing received with
  | nil => simp [arrivals]
  | cons index indices ih =>
    change arrivals (receive received index) indices other = true ↔ _
    rw [ih, receive_eq_true, List.mem_cons, or_assoc]

/-- Fragments received in any order output the payload once none is missing. -/
theorem payloads_progress (received : Nat → Bool) (indices : List Nat)
    (hindices : ∀ index ∈ indices, index < sent.total) :
    payloads (replies call (sent.progress received)
        (indices.map fun index => .pushBytes (sent.fragment index))) =
      if sent.Full (arrivals received indices) ∧
          ¬sent.Full received then [sent.payload]
      else [] := by
  induction indices generalizing received with
  | nil =>
    rw [if_neg fun h => h.2 h.1]
    rfl
  | cons index indices ih =>
    have hindex := hindices index List.mem_cons_self
    have htail := ih (receive received index) fun other hother =>
      hindices other (List.mem_cons_of_mem index hother)
    have hgrows : sent.Full received →
        sent.Full (receive received index) :=
      fun h other hother => receive_eq_true.mpr (Or.inl (h other hother))
    have hstays : sent.Full (receive received index) →
        sent.Full (arrivals (receive received index) indices) :=
      fun h other hother => arrivals_eq_true.mpr (Or.inl (h other hother))
    have hstep : payloads (replies call (sent.progress received)
          ((index :: indices).map fun index => .pushBytes (sent.fragment index))) =
        ((sent.progress received).pushBytes (sent.fragment index)).2.toList ++
          payloads (replies call
            ((sent.progress received).pushBytes (sent.fragment index)).1
            (indices.map fun index => .pushBytes (sent.fragment index))) := by
      rw [← payloads_payload]
      exact payloads_append [_] _
    rw [hstep, pushBytes_progress hindex, htail]
    change _ = if sent.Full (arrivals (receive received index) indices) ∧ _ then _
      else _
    by_cases hall : sent.Full received
    · simp [hall, hgrows hall]
    · by_cases hnext : sent.Full (receive received index)
      · simp [hall, hnext, hstays hnext]
      · simp [hall, hnext]

/-- Fragments of the snapshot are given by their numbers. -/
theorem exists_indices {arrived : List SnapshotFragment}
    (h : ∀ fragment ∈ arrived, fragment ∈ sent.fragments) :
    ∃ indices : List Nat, (∀ index ∈ indices, index < sent.total) ∧
      arrived = indices.map sent.fragment := by
  induction arrived with
  | nil => exact ⟨[], by simp, rfl⟩
  | cons fragment arrived ih =>
    obtain ⟨indices, hindices, rfl⟩ := ih fun other hother =>
      h other (List.mem_cons_of_mem fragment hother)
    obtain ⟨index, hindex, rfl⟩ := mem_fragments.mp (h fragment List.mem_cons_self)
    refine ⟨index :: indices, ?_, rfl⟩
    intro other hother
    rcases List.mem_cons.mp hother with rfl | hother
    · exact hindex
    · exact hindices other hother

/-- All fragments arrived when all numbers did. -/
theorem full_arrivals {indices : List Nat}
    (hindices : ∀ index ∈ indices, index < sent.total) :
    sent.Full (arrivals (fun _ => false) indices) ↔
      ∀ fragment ∈ sent.fragments, fragment ∈ indices.map sent.fragment := by
  constructor
  · intro hfull fragment hfragment
    obtain ⟨index, hindex, rfl⟩ := mem_fragments.mp hfragment
    have hmem := arrivals_eq_true.mp (hfull index hindex)
    exact List.mem_map_of_mem (hmem.resolve_left Bool.false_ne_true)
  · intro hall index hindex
    obtain ⟨other, hother, heq⟩ := List.mem_map.mp
      (hall _ (mem_fragments.mpr ⟨index, hindex, rfl⟩))
    rw [(fragment_inj (hindices other hother) hindex).mp heq] at hother
    exact arrivals_eq_true.mpr (Or.inr hother)

theorem payloads_arrived {arrived : List SnapshotFragment}
    (h : ∀ fragment ∈ arrived, fragment ∈ sent.fragments) :
    payloads (replies call {} (arrived.map .pushBytes)) =
      if ∀ fragment ∈ sent.fragments, fragment ∈ arrived then [sent.payload]
      else [] := by
  obtain ⟨indices, hindices, rfl⟩ := exists_indices h
  have hnone : ¬sent.Full fun _ => false := fun hfull =>
    Bool.false_ne_true (hfull 0 total_pos)
  have hrun := payloads_progress (fun _ => false) indices hindices
  rw [progress_none fun _ _ => rfl] at hrun
  rw [List.map_map]
  simp only [hnone, not_false_eq_true, and_true, full_arrivals hindices] at hrun
  exact hrun

theorem fragments_reassemble : Reassembles sent.fragments sent.payload := by
  intro arrived harrived
  refine ⟨payloads_arrived harrived, fun last hlast => ?_⟩
  have hgiven : ∀ fragment ∈ arrived ++ [last], fragment ∈ sent.fragments :=
    fun fragment hfragment => (List.mem_append.mp hfragment).elim
      (harrived fragment) fun hmem => List.mem_singleton.mp hmem ▸ hlast
  have hboth := payloads_arrived hgiven
  rw [List.map_append, replies_append, payloads_append, payloads_arrived harrived]
    at hboth
  have hlater : payloads (replies call (after call {} (arrived.map .pushBytes))
      ([last].map .pushBytes)) =
        ((after call {} (arrived.map .pushBytes)).pushBytes last).2.toList :=
    payloads_payload _
  have hgrows : (∀ fragment ∈ sent.fragments, fragment ∈ arrived) →
      ∀ fragment ∈ sent.fragments, fragment ∈ arrived ++ [last] :=
    fun h fragment hfragment => List.mem_append_left _ (h fragment hfragment)
  rw [hlater] at hboth
  by_cases hall : ∀ fragment ∈ sent.fragments, fragment ∈ arrived
  · rw [if_pos hall, if_pos (hgrows hall)] at hboth
    rw [if_neg fun h => h.2 hall]
    rw [← List.append_nil [sent.payload], List.append_assoc] at hboth
    exact Option.toList_eq_nil_iff.mp (List.append_cancel_left hboth)
  · rw [if_neg hall, List.nil_append] at hboth
    simp only [hall, not_false_eq_true, and_true]
    split
    · rename_i hnext
      rw [if_pos hnext] at hboth
      exact Option.toList_eq_singleton_iff.mp hboth
    · rename_i hnext
      rw [if_neg hnext] at hboth
      exact Option.toList_eq_nil_iff.mp hboth

end OutgoingSnapshot

/-- A payload within the limit is cut into fragments unless its id is zero; each of
them travels in one datagram, and received in any order and any number of times
they give the payload and its metadata back once. -/
theorem fragmentSnapshot_reassembles (matchId : MatchId)
    (snapshotId serverTick ackInputSequence : UInt32) (fullPayload : Bytes)
    (hpos : 1 ≤ fullPayload.length)
    (hmax : fullPayload.length ≤ maxSnapshotPayloadBytes) :
    ((∃ fragments, fragmentSnapshot matchId snapshotId serverTick ackInputSequence
        fullPayload = .ok fragments) ↔ snapshotId ≠ 0) ∧
      ∀ fragments, fragmentSnapshot matchId snapshotId serverTick ackInputSequence
          fullPayload = .ok fragments →
        (∀ fragment ∈ fragments, fragment.Travels) ∧
          Reassembles fragments
            { snapshotId, serverTick, ackInputSequence, bytes := fullPayload } := by
  refine ⟨⟨?_, ?_⟩, ?_⟩
  · rintro ⟨fragments, h⟩
    exact (fragmentSnapshot_eq_ok.mp h).1.1
  · intro hid
    exact ⟨_, fragmentSnapshot_eq_ok.mpr ⟨⟨hid, hpos, hmax⟩, rfl⟩⟩
  · intro fragments h
    obtain ⟨⟨hid, -, -⟩, rfl⟩ := fragmentSnapshot_eq_ok.mp h
    let sent : OutgoingSnapshot := {
      matchId, snapshotId, serverTick, ackInputSequence, fullPayload,
      identified := hid, nonempty := hpos, limited := hmax }
    refine ⟨?_, sent.fragments_reassemble⟩
    intro fragment hfragment
    obtain ⟨index, hindex, rfl⟩ := sent.mem_fragments.mp hfragment
    exact (OutgoingSnapshot.fragment_valid hindex).travels

theorem fragmentSnapshot_reassembles_byte :
    ∃ fragments, fragmentSnapshot ⟨7⟩ 1 2 3 [42] = .ok fragments ∧
      (∀ fragment ∈ fragments, fragment.Travels) ∧
      Reassembles fragments
        { snapshotId := 1, serverTick := 2, ackInputSequence := 3, bytes := [42] } := by
  obtain ⟨hsucceeds, hdelivers⟩ := fragmentSnapshot_reassembles ⟨7⟩ 1 2 3 [42]
    (by decide) (by decide)
  obtain ⟨fragments, h⟩ := hsucceeds.mpr (by decide)
  exact ⟨fragments, h, hdelivers fragments h⟩

end SurvivalArena
