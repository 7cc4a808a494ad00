import SurvivalArena.Replication.Agreement
import SurvivalArena.Replication.ReassemblyRoundTrip

/-!
# Snapshots over a lossy network

A replicator and one client of it behind a network that loses, repeats and reorders datagrams.
What the client reassembles are payloads that were issued to it.  Keyframes may be requested at
any time, so that the recovery the reassembler asks for is left out.
-/

namespace SurvivalArena

open Machine Wire

variable {sent : List OutgoingSnapshot}

/-! ## Fragments of several snapshots -/

namespace SnapshotReassembler

/-- The collection that is active is one of a snapshot that was sent. -/
def Gathers (sent : List OutgoingSnapshot) (state : SnapshotReassembler) : Prop :=
  ∀ active, state.active = some active →
    ∃ source ∈ sent, ∃ received, active = source.collection received

theorem gathers_idle {state : SnapshotReassembler} (h : state.active = none) :
    state.Gathers sent := by
  intro active hactive
  cases h.symm.trans hactive

theorem Gathers.append {state : SnapshotReassembler} (h : state.Gathers sent)
    (later : List OutgoingSnapshot) : state.Gathers (sent ++ later) := by
  intro active hactive
  obtain ⟨source, hsource, hcollection⟩ := h active hactive
  exact ⟨source, List.mem_append_left later hsource, hcollection⟩

/-- A fragment is placed into a collection of its own snapshot. -/
theorem Places.gathers {base : SnapshotReassembler} {source : OutgoingSnapshot}
    (hsource : source ∈ sent) {received : Nat → Bool} {index : Nat} (hindex : index < source.total)
    {result : SnapshotReassembler × Option ReassembledPayload}
    (h : Places base (source.collection received) (source.fragment index) result) :
    result.1.Gathers sent ∧ ∀ payload, result.2 = some payload → payload = source.payload := by
  have hstore : (source.collection received).store (source.fragment index) =
      source.collection (Fragments.receive received index) :=
    OutgoingSnapshot.store_collection hindex
  cases h with
  | repeated =>
    refine ⟨?_, fun _ hnone => by cases hnone⟩
    intro active hactive
    cases hactive
    exact ⟨source, hsource, received, rfl⟩
  | poisoned => exact ⟨gathers_idle rfl, fun _ hnone => by cases hnone⟩
  | stored =>
    refine ⟨?_, fun _ hnone => by cases hnone⟩
    intro active hactive
    cases hactive
    exact ⟨source, hsource, _, hstore⟩
  | finished _ hcomplete =>
    refine ⟨gathers_idle rfl, ?_⟩
    intro payload hpayload
    cases hpayload
    rw [hstore] at hcomplete ⊢
    rw [OutgoingSnapshot.payload_collection (OutgoingSnapshot.complete_collection.mp hcomplete)]
    rfl

theorem Gathers.pushBytes {state : SnapshotReassembler} (h : state.Gathers sent)
    (hids : (sent.map OutgoingSnapshot.snapshotId).Nodup) {source : OutgoingSnapshot}
    (hsource : source ∈ sent) {fragment : SnapshotFragment}
    (hfragment : fragment ∈ source.fragments) :
    (state.pushBytes fragment).1.Gathers sent ∧
      ∀ payload, (state.pushBytes fragment).2 = some payload → payload = source.payload := by
  obtain ⟨index, hindex, rfl⟩ := OutgoingSnapshot.mem_fragments.mp hfragment
  have hpushes := state.pushBytes_pushes (source.fragment index)
  generalize state.pushBytes (source.fragment index) = result at hpushes ⊢
  cases hpushes with
  | ignored => exact ⟨h, fun _ hnone => by cases hnone⟩
  | discarded => exact ⟨gathers_idle rfl, fun _ hnone => by cases hnone⟩
  | poisoned => exact ⟨gathers_idle rfl, fun _ hnone => by cases hnone⟩
  | placed hcollects hplaces =>
    cases hcollects with
    | newer =>
      have hempty : Assembly.start (source.fragment index) =
          source.collection fun _ => false :=
        OutgoingSnapshot.collection_empty (fun _ _ => rfl) index
      rw [hempty] at hplaces
      exact hplaces.gathers hsource hindex
    | active _ hactive hmetadata =>
      obtain ⟨other, hother, received, rfl⟩ := h _ hactive
      have hsame : other.snapshotId = source.snapshotId :=
        Assembly.snapshotId_of_metadata hmetadata
      cases List.inj_on_of_nodup_map hids hother hsource hsame
      exact hplaces.gathers hsource hindex

end SnapshotReassembler

/-! ## The network -/

structure ReplicationNetwork where
  system : ReplicationSystem
  reassembler : SnapshotReassembler := {}
  /-- All datagrams sent to the client. -/
  datagrams : List EncodedDatagram := []

inductive NetworkEvent where
  /-- A call of the server, with what goes along with a payload that it issues. -/
  | server (event : ReplicationEvent) (matchId : MatchId) (serverTick ackInputSequence : UInt32)
  /-- A datagram reaches the client. -/
  | arrives (index : Nat)

/-- The client stays a recipient. -/
def NetworkEvent.Keeps (client : PlayerId) : NetworkEvent → Prop
  | .server event _ _ _ => event ≠ .remove client
  | _ => True

namespace ReplicationNetwork

def encode (matchId : MatchId) (serverTick ackInputSequence : UInt32) (issued : Issued) :
    Except Exception (List EncodedDatagram) := do
  let fragments ← fragmentSnapshot matchId issued.snapshotId serverTick ackInputSequence
    issued.encodedPayload
  fragments.mapM fun fragment => encodeServerDatagram (.snapshotFragment fragment)

/-- A payload that cannot be cut has no datagrams. -/
def datagramsOf (matchId : MatchId) (serverTick ackInputSequence : UInt32) (issued : Issued) :
    List EncodedDatagram :=
  (encode matchId serverTick ackInputSequence issued).toOption.getD []

/-- A payload that is complete goes to the stream, which does not look at its view. -/
def receive (network : ReplicationNetwork) (fragment : SnapshotFragment) : ReplicationNetwork :=
  let (reassembler, completed) := network.reassembler.pushBytes fragment
  { network with
    reassembler
    system := completed.elim network.system fun payload => network.system.deliver
      { snapshotId := payload.snapshotId, filtered := {}, encodedPayload := payload.bytes } }

def step (client : PlayerId) (network : ReplicationNetwork) : NetworkEvent → ReplicationNetwork
  | .server event matchId serverTick ackInputSequence =>
    let system := network.system.step client event
    let new := system.issued.drop network.system.issued.length
    { network with
      system
      datagrams := network.datagrams ++
        new.flatMap (datagramsOf matchId serverTick ackInputSequence) }
  | .arrives index =>
    match network.datagrams[index]?.map fun datagram => decodeServerDatagram datagram.bytes with
    | some (.ok (.snapshotFragment fragment)) => network.receive fragment
    | _ => network

/-- A datagram is one of a snapshot that was sent. -/
def Sent (sent : List OutgoingSnapshot) (datagram : EncodedDatagram) : Prop :=
  ∃ source ∈ sent, ∃ fragment ∈ source.fragments,
    encodeServerDatagram (.snapshotFragment fragment) = .ok datagram

def sentPayload (source : OutgoingSnapshot) : UInt32 × Bytes :=
  (source.snapshotId, source.fullPayload)

def issuedPayload (issued : Issued) : UInt32 × Bytes :=
  (issued.snapshotId, issued.encodedPayload)

/-- What was sent was issued, and the client collects some of it. -/
structure Carries (client : PlayerId) (sent : List OutgoingSnapshot)
    (network : ReplicationNetwork) : Prop where
  agrees : network.system.Agrees client
  issued : (sent.map sentPayload).Sublist (network.system.issued.map issuedPayload)
  datagrams : ∀ datagram ∈ network.datagrams, Sent sent datagram
  gathers : network.reassembler.Gathers sent

variable {client : PlayerId} {network : ReplicationNetwork} {matchId : MatchId}
  {serverTick ackInputSequence : UInt32}

theorem datagramsOf_sent (new : List Issued) : ∃ sent : List OutgoingSnapshot,
    (sent.map sentPayload).Sublist (new.map issuedPayload) ∧
      ∀ datagram ∈ new.flatMap (datagramsOf matchId serverTick ackInputSequence),
        Sent sent datagram := by
  induction new with
  | nil => exact ⟨[], .slnil, fun _ hmem => by cases hmem⟩
  | cons issued new ih =>
    obtain ⟨sent, hissued, hsent⟩ := ih
    cases hcut : encode matchId serverTick ackInputSequence issued with
    | error e =>
      refine ⟨sent, hissued.cons _, ?_⟩
      simpa [datagramsOf, hcut, Except.toOption] using hsent
    | ok datagrams =>
      obtain ⟨fragments, hfragments, hdatagrams⟩ := except_bind_eq_ok.mp hcut
      obtain ⟨⟨hid, hpos, hmax⟩, rfl⟩ := fragmentSnapshot_eq_ok.mp hfragments
      refine ⟨⟨matchId, issued.snapshotId, serverTick, ackInputSequence, issued.encodedPayload,
        hid, hpos, hmax⟩ :: sent, hissued.cons_cons _, ?_⟩
      intro datagram hdatagram
      rcases List.mem_append.mp hdatagram with hnow | hlater
      · rw [datagramsOf, hcut] at hnow
        exact ⟨_, List.mem_cons_self, except_mapM_mem hdatagrams hnow⟩
      · obtain ⟨source, hsource, htravels⟩ := hsent datagram hlater
        exact ⟨source, List.mem_cons_of_mem _ hsource, htravels⟩

theorem deliver_issued (system : ReplicationSystem) (issued : Issued) :
    (system.deliver issued).issued = system.issued := by
  unfold ReplicationSystem.deliver
  split <;> rfl

theorem step_issued (client : PlayerId) (system : ReplicationSystem) (event : ReplicationEvent) :
    ∃ new, (system.step client event).issued = system.issued ++ new := by
  cases event with
  | build player snapshotId world => exact ⟨_, rfl⟩
  | deliver index =>
    refine ⟨[], ?_⟩
    rw [ReplicationSystem.step, List.append_nil]
    cases system.issued[index]? with
    | none => rfl
    | some issued => exact deliver_issued system issued
  | _ => exact ⟨[], (List.append_nil _).symm⟩

theorem Carries.server (h : network.Carries client sent) {event : ReplicationEvent}
    (hevent : event ≠ .remove client) : ∃ sent, Carries client sent
      (network.step client (.server event matchId serverTick ackInputSequence)) := by
  obtain ⟨new, hnew⟩ := step_issued client network.system event
  obtain ⟨later, hissued, hsent⟩ := datagramsOf_sent new
  refine ⟨sent ++ later, h.agrees.step network.system event hevent, ?_, ?_,
    h.gathers.append later⟩
  · have happended := h.issued.append hissued
    rw [← List.map_append, ← List.map_append, ← hnew] at happended
    exact happended
  · intro datagram hdatagram
    rcases List.mem_append.mp hdatagram with hold | hnow
    · obtain ⟨source, hsource, htravels⟩ := h.datagrams datagram hold
      exact ⟨source, List.mem_append_left later hsource, htravels⟩
    · rw [hnew, List.drop_left] at hnow
      obtain ⟨source, hsource, htravels⟩ := hsent datagram hnow
      exact ⟨source, List.mem_append_right sent hsource, htravels⟩

theorem Carries.receive (h : network.Carries client sent) {source : OutgoingSnapshot}
    (hsource : source ∈ sent) {fragment : SnapshotFragment}
    (hfragment : fragment ∈ source.fragments) :
    (network.receive fragment).Carries client sent := by
  have hids := h.issued.map Prod.fst
  rw [List.map_map, List.map_map] at hids
  obtain ⟨hgathers, hpayload⟩ :=
    h.gathers.pushBytes (h.agrees.distinct.sublist hids) hsource hfragment
  unfold ReplicationNetwork.receive
  generalize network.reassembler.pushBytes fragment = result at hgathers hpayload
  obtain ⟨reassembler, _ | payload⟩ := result
  · exact ⟨h.agrees, h.issued, h.datagrams, hgathers⟩
  · cases hpayload payload rfl
    obtain ⟨issued, hissued, hsame⟩ := List.mem_map.mp
      (h.issued.subset (List.mem_map_of_mem hsource))
    obtain ⟨hid, hbytes⟩ := Prod.mk.inj hsame
    have hdeliver : network.system.deliver ⟨source.snapshotId, {}, source.fullPayload⟩ =
        network.system.deliver issued := by
      rw [ReplicationSystem.deliver, ReplicationSystem.deliver, hid, hbytes]
    dsimp only [Option.elim, OutgoingSnapshot.payload]
    rw [hdeliver]
    refine ⟨h.agrees.deliver hissued, ?_, h.datagrams, hgathers⟩
    rw [deliver_issued]
    exact h.issued

/-- The step lemma. -/
theorem Carries.step (h : network.Carries client sent) {event : NetworkEvent}
    (hevent : event.Keeps client) : ∃ sent, (network.step client event).Carries client sent := by
  cases event with
  | server => exact h.server hevent
  | arrives index =>
    refine ⟨sent, ?_⟩
    rw [ReplicationNetwork.step]
    split
    next fragment hfragment =>
      obtain ⟨datagram, hdatagram, hdecode⟩ := Option.map_eq_some_iff.mp hfragment
      obtain ⟨source, hsource, travelling, htravelling, hencode⟩ :=
        h.datagrams datagram (List.mem_of_getElem? hdatagram)
      rw [(decodeServerDatagram_encode hencode).2] at hdecode
      cases hdecode
      exact h.receive hsource htravelling
    · exact h

/-- Whatever the network does to the datagrams of the payloads issued to a client that is not
removed, each world that the client publishes is the view built under its id. -/
theorem network_agreement {vertices : List (Vec2 Float32)} {config : ReplicationConfig}
    (hmode : config.mode = .interestDelta) {created : SnapshotReplicator}
    (hcreated : SnapshotReplicator.create vertices config = .ok created)
    {controlledActor : EntityId}
    (hregistered : (created.registerRecipient client controlledActor).2 = .ok ())
    {maximumBaselines : Nat} {stream : ClientSnapshotStream}
    (hstream : ClientSnapshotStream.create maximumBaselines = .ok stream)
    {events : List NetworkEvent} (hevents : ∀ event ∈ events, event.Keeps client) :
    (run (step client) { system := .start created client controlledActor stream }
      events).system.Agreement := by
  have hstart : ∃ sent, ReplicationNetwork.Carries client sent
      { system := .start created client controlledActor stream } :=
    ⟨[], ReplicationSystem.agrees_start hmode hcreated hregistered hstream,
      List.nil_sublist _, fun _ hmem => (by cases hmem), SnapshotReassembler.gathers_idle rfl⟩
  obtain ⟨sent, hcarries⟩ := run_invariant
    (I := fun network => ∃ sent, ReplicationNetwork.Carries client sent network)
    (P := NetworkEvent.Keeps client) (fun _ _ hevent ⟨_, h⟩ => h.step hevent) hstart hevents
  exact hcarries.agrees.agreement

open ReplicationSystem (duelReplicator duelStream duelWorld duel_created)

def duelNetwork : ReplicationNetwork where
  system := .start duelReplicator ⟨1⟩ ⟨1⟩ duelStream

/-- Two worlds of a duel, each in one datagram that arrives twice. -/
def duelTraffic : List NetworkEvent :=
  [.server (.build ⟨1⟩ 1 (duelWorld 5)) ⟨7⟩ 1 0, .arrives 0, .arrives 0,
    .server (.acknowledge ⟨1⟩ 1) ⟨7⟩ 1 0, .server (.build ⟨1⟩ 2 (duelWorld 6)) ⟨7⟩ 2 0,
    .arrives 1, .arrives 0]

theorem network_agreement_duel :
    (run (step ⟨1⟩) duelNetwork duelTraffic).system.Agreement ∧
      (run (step ⟨1⟩) duelNetwork duelTraffic).system.published.map Prod.fst = [1, 2] := by
  refine ⟨?_, by decide +kernel⟩
  exact network_agreement rfl (except_eq_ok_get duel_created) (by decide +kernel)
    (rfl : ClientSnapshotStream.create 4 = _) (by simp [duelTraffic, NetworkEvent.Keeps])

end ReplicationNetwork

end SurvivalArena
