import SurvivalArena.Framework.Machine
import SurvivalArena.Replication.ClientSnapshotStream
import SurvivalArena.Replication.ReplicatorStep

/-!
# Agreement of the two ends

A replicator in delta mode and one client of it.  Every payload built for the
client may be delivered late, repeatedly or never; acknowledgements and keyframe
requests may reach the server at any time and other recipients come and go.  The
baselines of both ends stay images of the views the server built, so every
published world is the view built under its id.
-/

namespace SurvivalArena

open KeyedList Wire

/-- A payload built for the client, with the view it was built from. -/
structure Issued where
  snapshotId : UInt32
  filtered : GameSnapshot
  encodedPayload : Bytes

structure ReplicationSystem where
  replicator : SnapshotReplicator
  stream : ClientSnapshotStream
  issued : List Issued := []
  published : List (UInt32 × GameSnapshot) := []

inductive ReplicationEvent where
  | register (player : PlayerId) (controlledActor : EntityId)
  | remove (player : PlayerId)
  | acknowledge (player : PlayerId) (snapshotId : UInt32)
  | requestKeyframe (player : PlayerId)
  | build (player : PlayerId) (snapshotId : UInt32) (world : GameSnapshot)
  /-- The issued payload at an index reaches the client. -/
  | deliver (index : Nat)

namespace SnapshotReplicator

/-- The interest-filtered view a build is made from. -/
def filteredView (replicator : SnapshotReplicator) (player : PlayerId)
    (snapshotId : UInt32) (world : GameSnapshot) :
    Except Exception GameSnapshot := do
  let recipient ← replicator.recipientFor player
  let prepared ← replicator.prepare recipient snapshotId world
  pure prepared.filtered

/-- A view as the recipient's client would show it. -/
def Quantizes (replicator : SnapshotReplicator) (filtered : GameSnapshot)
    (view : QuantizedWorld) : Prop :=
  quantizeView filtered replicator.bounds.minimum replicator.bounds.maximum
    replicator.radiusMaximum = .ok view

end SnapshotReplicator

namespace ReplicationSystem

/-- The payload a build adds to the client's issued ones. -/
def issue (system : ReplicationSystem) (player : PlayerId)
    (snapshotId : UInt32) (world : GameSnapshot)
    (outcome : Except Exception ReplicationBuild) : List Issued :=
  (outcome.toOption.bind fun build =>
    (system.replicator.filteredView player snapshotId world).toOption.map
      fun filtered => ⟨snapshotId, filtered, build.encodedPayload⟩).toList

def deliver (system : ReplicationSystem) (issued : Issued) :
    ReplicationSystem :=
  match decodeSnapshotPayload issued.encodedPayload with
  | .error _ => system
  | .ok payload =>
    let step := system.stream.apply issued.snapshotId payload
    { system with
      stream := step.1
      published := system.published ++
        (ClientSnapshotStream.publishedWorld step.2).toList.map
          (issued.snapshotId, ·) }

/-- One event; `client` is the recipient whose client is the stream. -/
def step (client : PlayerId) (system : ReplicationSystem) :
    ReplicationEvent → ReplicationSystem
  | .register player controlledActor => { system with
      replicator :=
        (system.replicator.registerRecipient player controlledActor).1 }
  | .remove player => { system with
      replicator := system.replicator.removeRecipient player }
  | .acknowledge player snapshotId => { system with
      replicator :=
        (system.replicator.acceptAcknowledgement player snapshotId).1 }
  | .requestKeyframe player => { system with
      replicator := (system.replicator.requestKeyframe player).1 }
  | .build player snapshotId world =>
    let built := system.replicator.build player snapshotId world
    { system with
      replicator := built.1
      issued := system.issued ++
        if player = client then system.issue player snapshotId world built.2
        else [] }
  | .deliver index => (system.issued[index]?.map system.deliver).getD system

/-- The view built for the client under an id. -/
def Viewed (system : ReplicationSystem) (snapshotId : UInt32)
    (view : QuantizedWorld) : Prop :=
  ∃ issued ∈ system.issued, issued.snapshotId = snapshotId ∧
    system.replicator.Quantizes issued.filtered view

/-- A decoded payload that stands for a view: the view itself, or its difference
from a view built under the base id. -/
inductive Carries (system : ReplicationSystem) (snapshotId : UInt32)
    (view : QuantizedWorld) : SnapshotPayload → Prop
  | keyframe : Carries system snapshotId view
      (buildQuantizedKeyframe snapshotId view).normalize
  | delta (baseSnapshotId : UInt32) (base : QuantizedWorld)
      (payload : SnapshotPayload) (viewed : system.Viewed baseSnapshotId base)
      (sorted : base.Sorted)
      (built : buildDeltaPayload baseSnapshotId snapshotId base view =
        .ok payload) : Carries system snapshotId view payload

/-- A payload in flight stands for the view it was built from. -/
def Stands (system : ReplicationSystem) (issued : Issued) : Prop :=
  ∃ view payload, system.replicator.Quantizes issued.filtered view ∧
    view.Sorted ∧
    decodeSnapshotPayload issued.encodedPayload = .ok payload ∧
    system.Carries issued.snapshotId view payload

/-- A client's baseline is the view built under its id, up to an absent
result. -/
def Images (system : ReplicationSystem) (snapshotId : UInt32)
    (world : QuantizedWorld) : Prop :=
  ∃ view, system.Viewed snapshotId view ∧
    world.normalizeResult = view.normalizeResult

/-- A published world is the dequantized view built under its id, up to an
absent result. -/
def Shows (system : ReplicationSystem) (snapshotId : UInt32)
    (world : GameSnapshot) : Prop :=
  ∃ view, system.Viewed snapshotId view ∧
    world.normalizeResult = (dequantizeWorld view).normalizeResult

/-- The relation between both ends and the payloads in flight. -/
structure Agrees (client : PlayerId) (system : ReplicationSystem) : Prop where
  mode : system.replicator.config.mode = .interestDelta
  server : ∃ recipient, system.replicator.recipients[client]? = some recipient ∧
    (∀ baseline ∈ recipient.baselines,
      system.Viewed baseline.snapshotId baseline.view ∧
        baseline.view.Sorted) ∧
    ∀ issued ∈ system.issued,
      issued.snapshotId ≤ recipient.issuedHighWatermark
  distinct : (system.issued.map Issued.snapshotId).Nodup
  payloads : ∀ issued ∈ system.issued, system.Stands issued
  client : ∀ baseline ∈ system.stream.baselines, ∀ world,
    baseline.quantized = some world → system.Images baseline.snapshotId world
  published : ∀ entry ∈ system.published, system.Shows entry.1 entry.2

/-! ## Views -/

/-- An id names one view. -/
theorem Agrees.viewed_unique {client : PlayerId} {system : ReplicationSystem}
    (h : system.Agrees client) {snapshotId : UInt32}
    {first second : QuantizedWorld} (hfirst : system.Viewed snapshotId first)
    (hsecond : system.Viewed snapshotId second) : first = second := by
  obtain ⟨i, hi, hiid, hiview⟩ := hfirst
  obtain ⟨j, hj, hjid, hjview⟩ := hsecond
  have hij : i = j :=
    List.inj_on_of_nodup_map h.distinct hi hj (hiid.trans hjid.symm)
  rw [hij] at hiview
  exact Except.ok.inj (hiview.symm.trans hjview)

theorem dequantizeWorld_normalizeResult (world : QuantizedWorld) :
    (dequantizeWorld world).normalizeResult =
      dequantizeWorld world.normalizeResult := by
  unfold GameSnapshot.normalizeResult QuantizedWorld.normalizeResult
    QuantizedGlobalValue.normalizeResult
  cases hresult : world.global.hasResult with
  | false => simp [dequantizeWorld, hresult]
  | true => simp [dequantizeWorld, hresult]

/-- Two systems with the same setup, the second with at least the payloads of
the first. -/
structure Extends (before after : ReplicationSystem) : Prop where
  setup : before.replicator.SameSetup after.replicator
  issued : ∀ issued ∈ before.issued, issued ∈ after.issued

theorem Extends.quantizes {before after : ReplicationSystem}
    (h : before.Extends after) {filtered : GameSnapshot} {view : QuantizedWorld}
    (hview : before.replicator.Quantizes filtered view) :
    after.replicator.Quantizes filtered view := by
  rw [SnapshotReplicator.Quantizes, h.setup.bounds, h.setup.radiusMaximum]
  exact hview

theorem Extends.viewed {before after : ReplicationSystem}
    (h : before.Extends after) {snapshotId : UInt32} {view : QuantizedWorld}
    (hview : before.Viewed snapshotId view) : after.Viewed snapshotId view := by
  obtain ⟨issued, hmem, hid, hquantizes⟩ := hview
  exact ⟨issued, h.issued issued hmem, hid, h.quantizes hquantizes⟩

/-- The view of a payload issued last. -/
theorem Extends.viewed_new {before : ReplicationSystem}
    {replicator : SnapshotReplicator} {new : Issued}
    (h : before.Extends { before with
      replicator, issued := before.issued ++ [new] })
    {view : QuantizedWorld}
    (hview : before.replicator.Quantizes new.filtered view) :
    ({ before with replicator, issued := before.issued ++ [new] } :
      ReplicationSystem).Viewed new.snapshotId view :=
  ⟨new, List.mem_append_right _ List.mem_cons_self, rfl, h.quantizes hview⟩

theorem Extends.carries {before after : ReplicationSystem}
    (h : before.Extends after) {snapshotId : UInt32} {view : QuantizedWorld}
    {payload : SnapshotPayload}
    (hcarries : before.Carries snapshotId view payload) :
    after.Carries snapshotId view payload := by
  cases hcarries with
  | keyframe => exact .keyframe
  | delta baseSnapshotId base _ hviewed hsorted hbuilt =>
    exact .delta baseSnapshotId base payload (h.viewed hviewed) hsorted hbuilt

theorem Extends.stands {before after : ReplicationSystem}
    (h : before.Extends after) {issued : Issued}
    (hstands : before.Stands issued) : after.Stands issued := by
  obtain ⟨view, payload, hview, hsorted, hdecode, hcarries⟩ := hstands
  exact ⟨view, payload, h.quantizes hview, hsorted, hdecode,
    h.carries hcarries⟩

theorem Extends.images {before after : ReplicationSystem}
    (h : before.Extends after) {snapshotId : UInt32} {world : QuantizedWorld}
    (himages : before.Images snapshotId world) :
    after.Images snapshotId world := by
  obtain ⟨view, hview, heq⟩ := himages
  exact ⟨view, h.viewed hview, heq⟩

theorem Extends.shows {before after : ReplicationSystem}
    (h : before.Extends after) {snapshotId : UInt32} {world : GameSnapshot}
    (hshows : before.Shows snapshotId world) :
    after.Shows snapshotId world := by
  obtain ⟨view, hview, heq⟩ := hshows
  exact ⟨view, h.viewed hview, heq⟩

/-! ## Steps of the server -/

/-- An operation that at most trims the client's record keeps the agreement. -/
theorem Agrees.of_trims {client : PlayerId} {system : ReplicationSystem}
    (h : system.Agrees client) {replicator : SnapshotReplicator}
    (hsetup : system.replicator.SameSetup replicator)
    (hrecipient : ∀ before,
      system.replicator.recipients[client]? = some before →
      ∃ after, replicator.recipients[client]? = some after ∧
        SnapshotReplicator.Trims before after) :
    ({ system with replicator } : ReplicationSystem).Agrees client := by
  have hext : system.Extends { system with replicator } :=
    ⟨hsetup, fun _ hmem => hmem⟩
  obtain ⟨before, hbefore, hbaselines, hwatermark⟩ := h.server
  obtain ⟨after, hafter, htrims⟩ := hrecipient before hbefore
  exact {
    mode := by rw [hsetup.config]; exact h.mode
    server := by
      refine ⟨after, hafter, ?_, ?_⟩
      · intro baseline hmem
        have hold := hbaselines baseline (htrims.baselines baseline hmem)
        exact ⟨hext.viewed hold.1, hold.2⟩
      · intro issued hmem
        rw [htrims.watermark]
        exact hwatermark issued hmem
    distinct := h.distinct
    payloads := by
      intro issued hmem
      exact hext.stands (h.payloads issued hmem)
    client := by
      intro baseline hmem world hworld
      exact hext.images (h.client baseline hmem world hworld)
    published := by
      intro entry hmem
      exact hext.shows (h.published entry hmem) }

private theorem trims_refl (recipient : Recipient) :
    SnapshotReplicator.Trims recipient recipient :=
  ⟨fun _ hmem => hmem, rfl⟩

/-- An operation on another recipient keeps the agreement. -/
theorem Agrees.of_keepsOthers {client player : PlayerId}
    {system : ReplicationSystem} (h : system.Agrees client)
    {replicator : SnapshotReplicator} (hne : client ≠ player)
    (hkeeps : system.replicator.KeepsOthers player replicator) :
    ({ system with replicator } : ReplicationSystem).Agrees client := by
  apply h.of_trims hkeeps.toSameSetup
  intro before hbefore
  exact ⟨before, by rw [hkeeps.others client hne]; exact hbefore,
    trims_refl before⟩

theorem Agrees.of_trimmed {client player : PlayerId}
    {system : ReplicationSystem} (h : system.Agrees client)
    {replicator : SnapshotReplicator}
    (htrimmed : system.replicator.Trimmed player replicator) :
    ({ system with replicator } : ReplicationSystem).Agrees client := by
  by_cases hne : client = player
  · subst hne
    apply h.of_trims htrimmed.keepsOthers.toSameSetup
    intro before hbefore
    cases htrimmed with
    | same => exact ⟨before, hbefore, trims_refl before⟩
    | trimmed old after hfound htrims =>
      obtain rfl := Option.some.inj (hfound.symm.trans hbefore)
      exact ⟨after, SnapshotReplicator.setRecipient_recipients _ _ _, htrims⟩
  · exact h.of_keepsOthers hne htrimmed.keepsOthers

theorem Agrees.register {client player : PlayerId} {system : ReplicationSystem}
    (h : system.Agrees client) (controlledActor : EntityId) :
    (system.step client (.register player controlledActor)).Agrees client := by
  by_cases hne : client = player
  · subst hne
    obtain ⟨recipient, hfound, -⟩ := h.server
    have hsame := SnapshotReplicator.registerRecipient_registered
      controlledActor hfound
    rw [step, hsame]
    exact h
  · exact h.of_keepsOthers hne
      (SnapshotReplicator.registerRecipient_keepsOthers _ _ _)

/-- A build that throws issues nothing. -/
@[simp]
theorem issue_error (system : ReplicationSystem) (player : PlayerId)
    (snapshotId : UInt32) (world : GameSnapshot) (e : Exception) :
    system.issue player snapshotId world (.error e) = [] :=
  rfl

/-- A build that succeeds issues its payload with the view it prepared. -/
theorem issue_ok {system : ReplicationSystem} {player : PlayerId}
    {snapshotId : UInt32} {world : GameSnapshot} {recipient : Recipient}
    {prepared : PreparedBuild}
    (hfound : system.replicator.recipients[player]? = some recipient)
    (hprepared : system.replicator.prepare recipient snapshotId world =
      .ok prepared) :
    system.issue player snapshotId world (.ok prepared.build) =
      [⟨snapshotId, prepared.filtered, prepared.build.encodedPayload⟩] := by
  have hview : system.replicator.filteredView player snapshotId world =
      .ok prepared.filtered := by
    have hrecipient := SnapshotReplicator.recipientFor_eq_ok.mpr hfound
    exact except_bind_eq_ok.mpr ⟨recipient, hrecipient,
      except_bind_eq_ok.mpr ⟨prepared, hprepared, rfl⟩⟩
  rw [issue, hview]
  rfl

/-- What a build in delta mode sends stands for the view it stores. -/
theorem carries_of_deltaPayload {system : ReplicationSystem}
    {recipient : Recipient} (hbaselines : ∀ baseline ∈ recipient.baselines,
      system.Viewed baseline.snapshotId baseline.view ∧ baseline.view.Sorted)
    {snapshotId : UInt32} {view : QuantizedWorld} {payload : SnapshotPayload}
    (h : SnapshotReplicator.DeltaPayload recipient snapshotId view payload) :
    system.Carries snapshotId view payload.normalize := by
  cases h with
  | keyframe => exact .keyframe
  | delta base _ hstored hbuilt =>
    rw [normalize_buildDeltaPayload hbuilt]
    obtain ⟨hviewed, hsorted⟩ := hbaselines base hstored
    exact .delta base.snapshotId base.view payload hviewed hsorted hbuilt

/-- Building for the client adds one payload that stands for its view. -/
theorem Agrees.build {client : PlayerId} {system : ReplicationSystem}
    (h : system.Agrees client) (snapshotId : UInt32) (world : GameSnapshot) :
    (system.step client (.build client snapshotId world)).Agrees client := by
  have hstep := SnapshotReplicator.build_step h.mode client snapshotId world
  have hkeeps := hstep.keepsOthers
  simp only [step, if_true]
  generalize system.replicator.build client snapshotId world = built
    at hstep hkeeps
  cases hstep with
  | thrown e =>
    rw [issue_error, List.append_nil]
    exact h
  | built recipient prepared view hfound hincreasing hprepares hdelta =>
    rw [issue_ok hfound hprepares]
    obtain ⟨before, hbefore, hbaselines, hwatermark⟩ := h.server
    obtain rfl := Option.some.inj (hfound.symm.trans hbefore)
    have hext : system.Extends { system with
        replicator := (system.replicator.commitGrid snapshotId world
          prepared.candidateGrid).setRecipient client
            (system.replicator.builtRecipient recipient snapshotId prepared)
        issued := system.issued ++
          [⟨snapshotId, prepared.filtered, prepared.build.encodedPayload⟩] } :=
      ⟨hkeeps.toSameSetup, fun _ hmem => List.mem_append_left _ hmem⟩
    have hviewed := hext.viewed_new hdelta.quantized
    have hbuilt := SnapshotReplicator.setRecipient_recipients
      (system.replicator.commitGrid snapshotId world prepared.candidateGrid)
      client (system.replicator.builtRecipient recipient snapshotId prepared)
    exact {
      mode := by rw [hkeeps.config]; exact h.mode
      server := by
        refine ⟨_, hbuilt, ?_, ?_⟩
        · intro baseline hmem
          have hstored : baseline ∈ recipient.baselines ∨
              baseline = ⟨snapshotId, view⟩ := by
            apply SnapshotReplicator.mem_storeBaseline
            simpa [SnapshotReplicator.builtRecipient, hdelta.stored] using hmem
          rcases hstored with hold | rfl
          · exact ⟨hext.viewed (hbaselines baseline hold).1,
              (hbaselines baseline hold).2⟩
          · exact ⟨hviewed, hdelta.sorted⟩
        · intro issued hmem
          rcases List.mem_append.mp hmem with hold | hnew
          · exact ((hwatermark issued hold).trans_lt hincreasing).le
          · obtain rfl := List.mem_singleton.mp hnew
            exact le_rfl
      distinct := by
        have hfresh : snapshotId ∉ system.issued.map Issued.snapshotId := by
          intro hmem
          obtain ⟨issued, hissued, hid⟩ := List.mem_map.mp hmem
          have hlt := (hwatermark issued hissued).trans_lt hincreasing
          exact absurd hid hlt.ne
        rw [List.map_append]
        exact h.distinct.append (List.nodup_singleton snapshotId)
          (List.disjoint_singleton.mpr hfresh)
      payloads := by
        intro issued hmem
        rcases List.mem_append.mp hmem with hold | hnew
        · exact hext.stands (h.payloads issued hold)
        · obtain rfl := List.mem_singleton.mp hnew
          have hcarries := carries_of_deltaPayload hbaselines hdelta.payload
          exact ⟨view, _, hext.quantizes hdelta.quantized, hdelta.sorted,
            decodeSnapshotPayload_encodeSnapshotPayload hdelta.encoded,
            hext.carries hcarries⟩
      client := by
        intro baseline hmem quantized hquantized
        exact hext.images (h.client baseline hmem quantized hquantized)
      published := by
        intro entry hmem
        exact hext.shows (h.published entry hmem) }

/-! ## Deliveries -/

/-- The client merges a delta into its image of the view the server built the
delta from. -/
theorem Agrees.merges {client : PlayerId} {system : ReplicationSystem}
    (h : system.Agrees client) {snapshotId : UInt32} {view base : QuantizedWorld}
    {payload : SnapshotPayload}
    (hcarries : system.Carries snapshotId view payload)
    (hmerges : system.stream.Merges snapshotId payload base) :
    ∃ baseView, system.Viewed payload.header.baseSnapshotId baseView ∧
      baseView.Sorted ∧ base.normalizeResult = baseView.normalizeResult ∧
      buildDeltaPayload payload.header.baseSnapshotId snapshotId baseView view =
        .ok payload := by
  cases hcarries with
  | keyframe => exact absurd rfl hmerges.kind.2
  | delta baseSnapshotId baseView _ hviewed hsorted hbuilt =>
    have hid : payload.header.baseSnapshotId = baseSnapshotId := by
      obtain ⟨actors, loot, -, -, rfl⟩ := buildDeltaPayload_eq_ok.mp hbuilt
      rfl
    rw [hid]
    obtain ⟨baseline, hfind, hquantized⟩ :=
      Option.bind_eq_some_iff.mp hmerges.baseline
    have hmem := List.mem_of_find?_eq_some hfind
    have hbaselineId : baseline.snapshotId = baseSnapshotId := by
      rw [← hid]
      simpa using List.find?_some hfind
    obtain ⟨known, hknown, heq⟩ := h.client baseline hmem base hquantized
    rw [hbaselineId] at hknown
    obtain rfl := h.viewed_unique hknown hviewed
    exact ⟨known, hviewed, hsorted, heq, hbuilt⟩

/-- A payload in flight is a quantized keyframe of its view, or a delta. -/
theorem Carries.kind {system : ReplicationSystem} {snapshotId : UInt32}
    {view : QuantizedWorld} {payload : SnapshotPayload}
    (h : system.Carries snapshotId view payload) :
    payload.header.valueEncoding = .quantized ∧
      (payload.header.kind = .keyframe ∧
          payload.worldFromKeyframe = view.normalizeResult ∨
        payload.header.kind = .delta) := by
  cases h with
  | keyframe => exact ⟨rfl, Or.inl ⟨rfl, rfl⟩⟩
  | delta _ _ _ _ _ hbuilt =>
    obtain ⟨actors, loot, -, -, rfl⟩ := buildDeltaPayload_eq_ok.mp hbuilt
    exact ⟨rfl, Or.inr rfl⟩

/-- What the client makes of a payload is an image of the view it stands for. -/
theorem Agrees.source {client : PlayerId} {system : ReplicationSystem}
    (h : system.Agrees client) {snapshotId : UInt32} {view : QuantizedWorld}
    {payload : SnapshotPayload} (hsorted : view.Sorted)
    (hcarries : system.Carries snapshotId view payload)
    {quantized : Option QuantizedWorld} {world : GameSnapshot}
    (hsource : system.stream.Source snapshotId payload quantized world) :
    ∃ image, quantized = some image ∧ world = dequantizeWorld image ∧
      image.normalizeResult = view.normalizeResult := by
  obtain ⟨hencoding, hkinds⟩ := hcarries.kind
  cases hsource with
  | precision hkind =>
    rw [hencoding] at hkind
    rcases hkinds with ⟨hkeyframe, -⟩ | hdelta
    · rw [hkeyframe] at hkind
      exact absurd hkind (by decide)
    · rw [hdelta] at hkind
      exact absurd hkind (by decide)
  | keyframe hkind =>
    rcases hkinds with ⟨-, hworld⟩ | hdelta
    · refine ⟨_, rfl, rfl, ?_⟩
      rw [hworld, QuantizedWorld.normalizeResult_normalizeResult]
    · rw [hdelta] at hkind
      cases hkind
  | delta base applied hmerges happlied =>
    obtain ⟨baseView, -, hbaseSorted, hbase, hbuilt⟩ :=
      h.merges hcarries hmerges
    obtain ⟨restored, hrestored, heq⟩ :=
      applyDelta_buildDeltaPayload hbaseSorted hsorted hbase hbuilt
    obtain rfl := Except.ok.inj (happlied.symm.trans hrestored)
    exact ⟨applied, rfl, rfl, heq⟩

/-- A delivery publishes the view of the delivered payload. -/
theorem Agrees.deliver {client : PlayerId} {system : ReplicationSystem}
    (h : system.Agrees client) {issued : Issued} (hissued : issued ∈ system.issued) :
    (system.deliver issued).Agrees client := by
  obtain ⟨view, payload, hview, hsorted, hdecode, hcarries⟩ :=
    h.payloads issued hissued
  have hviewed : system.Viewed issued.snapshotId view :=
    ⟨issued, hissued, rfl, hview⟩
  have hstep := system.stream.apply_step issued.snapshotId payload
  have hext : system.Extends (system.deliver issued) := by
    simp only [ReplicationSystem.deliver, hdecode]
    exact ⟨⟨rfl, rfl, rfl⟩, fun _ hmem => hmem⟩
  simp only [ReplicationSystem.deliver, hdecode] at hext ⊢
  generalize system.stream.apply issued.snapshotId payload = applied
    at hstep hext
  cases hstep with
  | silent next outcome hunpublished hbaselines =>
    exact {
      mode := h.mode
      server := h.server
      distinct := h.distinct
      payloads := fun issued hmem => hext.stands (h.payloads issued hmem)
      client := by
        intro baseline hmem world hworld
        rw [hbaselines] at hmem
        exact hext.images (h.client baseline hmem world hworld)
      published := by
        intro entry hmem
        simp only [hunpublished, Option.toList_none, List.map_nil,
          List.append_nil] at hmem
        exact hext.shows (h.published entry hmem) }
  | published next outcome quantized world hsource hworld hbaselines =>
    obtain ⟨image, rfl, rfl, heq⟩ := h.source hsorted hcarries hsource
    exact {
      mode := h.mode
      server := h.server
      distinct := h.distinct
      payloads := fun issued hmem => hext.stands (h.payloads issued hmem)
      client := by
        intro baseline hmem stored hstored
        rw [hbaselines] at hmem
        rcases List.mem_append.mp (List.mem_of_mem_drop hmem) with hold | hnew
        · exact hext.images (h.client baseline hold stored hstored)
        · obtain rfl := List.mem_singleton.mp hnew
          obtain rfl := Option.some.inj hstored
          exact ⟨view, hext.viewed hviewed, heq⟩
      published := by
        intro entry hmem
        simp only [hworld, Option.toList_some, List.map_cons,
          List.map_nil] at hmem
        rcases List.mem_append.mp hmem with hold | hnew
        · exact hext.shows (h.published entry hold)
        · obtain rfl := List.mem_singleton.mp hnew
          refine ⟨view, hext.viewed hviewed, ?_⟩
          rw [dequantizeWorld_normalizeResult, dequantizeWorld_normalizeResult,
            heq] }

/-! ## Runs -/

/-- Every event but the removal of the client keeps the agreement. -/
theorem Agrees.step {client : PlayerId} (system : ReplicationSystem)
    (event : ReplicationEvent) (hevent : event ≠ .remove client)
    (h : system.Agrees client) : (system.step client event).Agrees client := by
  cases event with
  | register player controlledActor => exact h.register controlledActor
  | remove player =>
    have hne : client ≠ player := fun heq => hevent (heq ▸ rfl)
    exact h.of_keepsOthers hne
      (SnapshotReplicator.removeRecipient_keepsOthers _ _)
  | acknowledge player snapshotId =>
    exact h.of_trimmed
      (SnapshotReplicator.acceptAcknowledgement_trimmed _ _ _)
  | requestKeyframe player =>
    exact h.of_trimmed (SnapshotReplicator.requestKeyframe_trimmed _ _)
  | build player snapshotId world =>
    by_cases hne : player = client
    · rw [hne]
      exact h.build snapshotId world
    · have hstep := SnapshotReplicator.build_step h.mode player snapshotId world
      have hothers := h.of_keepsOthers (Ne.symm hne) hstep.keepsOthers
      simp only [ReplicationSystem.step, if_neg hne, List.append_nil]
      exact hothers
  | deliver index =>
    simp only [ReplicationSystem.step]
    cases hissued : system.issued[index]? with
    | none => exact h
    | some issued => exact h.deliver (List.mem_of_getElem? hissued)

/-- The system once the client is registered and its stream is created. -/
def start (created : SnapshotReplicator) (client : PlayerId)
    (controlledActor : EntityId) (stream : ClientSnapshotStream) :
    ReplicationSystem where
  replicator := (created.registerRecipient client controlledActor).1
  stream

/-- A freshly registered recipient agrees with a fresh client. -/
theorem agrees_start {vertices : List (Vec2 Float32)} {config : ReplicationConfig}
    (hmode : config.mode = .interestDelta) {created : SnapshotReplicator}
    (hcreated : SnapshotReplicator.create vertices config = .ok created)
    {client : PlayerId} {controlledActor : EntityId}
    (hregistered :
      (created.registerRecipient client controlledActor).2 = .ok ())
    {maximumBaselines : Nat} {stream : ClientSnapshotStream}
    (hstream : ClientSnapshotStream.create maximumBaselines = .ok stream) :
    (start created client controlledActor stream).Agrees client := by
  rw [start, SnapshotReplicator.registerRecipient_of_ok hregistered]
  exact {
    mode := by
      show created.config.mode = .interestDelta
      rw [SnapshotReplicator.create_config hcreated, hmode]
    server := ⟨{ controlledActor },
      SnapshotReplicator.setRecipient_recipients _ _ _, by simp, by simp⟩
    distinct := List.nodup_nil
    payloads := by simp
    client := by simp [ClientSnapshotStream.create_baselines hstream]
    published := by simp }

/-- What the client shows is what the server built for it. -/
structure Agreement (system : ReplicationSystem) : Prop where
  /-- An id is built once. -/
  distinct : ∀ first ∈ system.issued, ∀ second ∈ system.issued,
    first.snapshotId = second.snapshotId → first = second
  /-- A published world is the dequantized view built under its id; the result
  counts only where there is one. -/
  published : ∀ entry ∈ system.published, ∃ issued ∈ system.issued, ∃ view,
    issued.snapshotId = entry.1 ∧
      system.replicator.Quantizes issued.filtered view ∧
      entry.2.normalizeResult = (dequantizeWorld view).normalizeResult
  /-- A delta is merged into the view it was built from. -/
  merged : ∀ issued ∈ system.issued, ∀ payload base,
    decodeSnapshotPayload issued.encodedPayload = .ok payload →
    system.stream.Merges issued.snapshotId payload base →
    ∃ view baseView, system.replicator.Quantizes issued.filtered view ∧
      system.Viewed payload.header.baseSnapshotId baseView ∧
      base.normalizeResult = baseView.normalizeResult ∧
      buildDeltaPayload payload.header.baseSnapshotId issued.snapshotId baseView
        view = .ok payload

theorem Agrees.agreement {client : PlayerId} {system : ReplicationSystem}
    (h : system.Agrees client) : system.Agreement where
  distinct := by
    intro first hfirst second hsecond hid
    exact List.inj_on_of_nodup_map h.distinct hfirst hsecond hid
  published := by
    intro entry hentry
    obtain ⟨view, ⟨issued, hissued, hid, hview⟩, heq⟩ :=
      h.published entry hentry
    exact ⟨issued, hissued, view, hid, hview, heq⟩
  merged := by
    intro issued hissued payload base hpayload hmerges
    obtain ⟨view, decoded, hview, -, hdecode, hcarries⟩ :=
      h.payloads issued hissued
    obtain rfl := Except.ok.inj (hpayload.symm.trans hdecode)
    obtain ⟨baseView, hviewed, -, heq, hbuilt⟩ := h.merges hcarries hmerges
    exact ⟨view, baseView, hview, hviewed, heq, hbuilt⟩

/-- Both ends agree after every sequence of events, whatever is lost, repeated
or reordered. -/
theorem run_agreement (vertices : List (Vec2 Float32))
    (config : ReplicationConfig) (hmode : config.mode = .interestDelta)
    (created : SnapshotReplicator)
    (hcreated : SnapshotReplicator.create vertices config = .ok created)
    (client : PlayerId) (controlledActor : EntityId)
    (hregistered :
      (created.registerRecipient client controlledActor).2 = .ok ())
    (maximumBaselines : Nat) (stream : ClientSnapshotStream)
    (hstream : ClientSnapshotStream.create maximumBaselines = .ok stream)
    (events : List ReplicationEvent)
    (hevents : ∀ event ∈ events, event ≠ .remove client) :
    (Machine.run (step client) (start created client controlledActor stream)
      events).Agreement := by
  have hstart := agrees_start hmode hcreated hregistered hstream
  have hagrees : (Machine.run (step client)
      (start created client controlledActor stream) events).Agrees client :=
    Machine.run_invariant (I := Agrees client) Agrees.step hstart hevents
  exact hagrees.agreement

/-! A square arena with two fighters, seen by the first: a keyframe, its
acknowledgement, and a delta from it; both payloads arrive twice. -/

def duelVertices : List (Vec2 Float32) :=
  [⟨-128, -128⟩, ⟨128, -128⟩, ⟨128, 128⟩, ⟨-128, 128⟩]

def duelConfig : ReplicationConfig where
  mode := .interestDelta

def duelWorld (x : Float32) : GameSnapshot where
  phase := .running
  aliveContenders := 2
  actors := [{ id := ⟨1⟩, health := 100, alive := true },
             { id := ⟨2⟩, position := ⟨x, 0⟩, health := 100, alive := true }]

def duelEvents : List ReplicationEvent :=
  [.build ⟨1⟩ 1 (duelWorld 5), .deliver 0, .acknowledge ⟨1⟩ 1,
   .build ⟨1⟩ 2 (duelWorld 6), .deliver 1, .deliver 0, .deliver 1]

theorem duel_created :
    (SnapshotReplicator.create duelVertices duelConfig).toOption.isSome =
      true := by
  decide +kernel

def duelReplicator : SnapshotReplicator :=
  (SnapshotReplicator.create duelVertices duelConfig).toOption.get duel_created

def duelStream : ClientSnapshotStream where
  maximumBaselines := 4
  capacity := by decide

/-- The run after which the client has shown both worlds. -/
def duelSystem : ReplicationSystem :=
  Machine.run (step ⟨1⟩) (start duelReplicator ⟨1⟩ ⟨1⟩ duelStream) duelEvents

theorem run_agreement_duel :
    duelSystem.Agreement ∧ duelSystem.published.map Prod.fst = [1, 2] ∧
      duelSystem.issued.map (fun issued =>
        (decodeSnapshotPayload issued.encodedPayload).toOption.map
          fun payload => payload.header.kind) =
        [some .keyframe, some .delta] := by
  refine ⟨?_, by decide +kernel, by decide +kernel⟩
  exact run_agreement duelVertices duelConfig rfl duelReplicator
    (except_eq_ok_get duel_created) ⟨1⟩ ⟨1⟩ (by decide +kernel) 4 duelStream rfl
    duelEvents (by simp [duelEvents])

end ReplicationSystem

end SurvivalArena
