import SurvivalArena.GameClient.GameSession
import SurvivalArena.GameClient.RemoteInterpolator
import SurvivalArena.Replication.ClientTransitions

/-!
# From the snapshot stream to the interpolation buffer

The network thread applies snapshots and queues the worlds they make, each with the actors
whose interpolation starts over.  The game thread takes the queue, frame by frame, and gives
the buffer the worlds that hold the local actor.
-/

namespace SurvivalArena

open Machine KeyedList

structure PendingSnapshot where
  snapshot : ReassembledSnapshot
  resetInterpolationActors : List EntityId

/-- A sort by the server tick, which may put equal ticks in any order. -/
structure TickSort where
  sort : List PendingSnapshot → List PendingSnapshot
  perm : ∀ pending, (sort pending).Perm pending
  sorted : ∀ pending, (sort pending).Pairwise fun left right =>
    left.snapshot.serverTick ≤ right.snapshot.serverTick

/-- The part of a session that the worlds go through. -/
structure SnapshotFeed where
  navMesh : NavMesh Float32
  localActor : EntityId
  state : GameSessionState := .synchronizing
  snapshotStream : ClientSnapshotStream :=
    { maximumBaselines := maxClientSnapshotBuffer, capacity := maxClientSnapshotBuffer_fits }
  snapshotQueue : List PendingSnapshot := []
  /-- What is left of the snapshots that the frame took. -/
  pending : List PendingSnapshot := []
  becameRunning : Bool := false
  predictor : Option (ClientPredictor Float32) := none
  interpolation : RemoteInterpolator Float32 := {}
  /-- All worlds the stream has published. -/
  applied : List ReassembledSnapshot := []

inductive FeedEvent where
  /-- A snapshot is complete and decoded. -/
  | completed (snapshotId serverTick ackInputSequence : UInt32) (payload : SnapshotPayload)
  | frameBegun (order : TickSort)
  /-- The frame goes on with its next snapshot. -/
  | snapshotTaken
  | frameEnded
  | setDestination (destination : Vec2 Float32)
  /-- Another handler changes the state of the session. -/
  | stateChanged (state : GameSessionState)

def sceneActor (actor : NetworkActorSnapshot) : SceneActor Float32 where
  id := actor.id
  role := actor.role
  neutralArchetype := actor.neutralArchetype
  position := ⟨actor.position.x, actor.position.z⟩
  health := actor.health
  alive := actor.alive
  weapon := actor.weapon
  cooldownTicksRemaining := actor.cooldownTicksRemaining
  eliminations := actor.eliminations

def sceneSnapshot (world : GameSnapshot) : SceneSnapshot Float32 where
  phase := world.phase
  safeZoneStage := world.safeZoneStage
  safeZoneCenter := world.safeZoneCenter
  safeZoneRadius := world.safeZoneRadius
  aliveContenders := world.aliveContenders
  actors := world.actors.map sceneActor
  loot := world.loot
  result := world.result
  hasResult := world.hasResult
  eventChecksum := world.eventChecksum

def remoteSnapshot (snapshot : ReassembledSnapshot) : RemoteSnapshot Float32 where
  snapshotId := snapshot.snapshotId
  serverTick := snapshot.serverTick
  snapshot := sceneSnapshot snapshot.snapshot

/-- The actors that left or entered, sorted and each once. -/
def resetInterpolationActors (applied : SnapshotApplyResult) : List EntityId :=
  (sortByKey id (applied.removedActors ++ applied.reenteredActors)).destutter (· ≠ ·)

namespace SnapshotFeed

def running (feed : SnapshotFeed) : Bool :=
  feed.state = .synchronizing || feed.state = .running

/-- The oldest snapshot makes room for a new one in a full queue. -/
def queueSnapshot (feed : SnapshotFeed) (pending : PendingSnapshot) : SnapshotFeed :=
  { feed with
    snapshotQueue :=
      (if snapshotQueueCapacity ≤ feed.snapshotQueue.length then feed.snapshotQueue.drop 1
        else feed.snapshotQueue) ++ [pending]
    applied := feed.applied ++ [pending.snapshot] }

def complete (feed : SnapshotFeed) (snapshotId serverTick ackInputSequence : UInt32)
    (payload : SnapshotPayload) : SnapshotFeed :=
  if !feed.running then feed
  else
    let (snapshotStream, applied) := feed.snapshotStream.apply snapshotId payload
    let feed := { feed with snapshotStream }
    match applied with
    | .error _ => { feed with state := .protocolError }
    | .ok applied =>
      match applied.world with
      | none => feed
      | some world =>
        feed.queueSnapshot {
          snapshot := { snapshotId, serverTick, ackInputSequence, snapshot := world }
          resetInterpolationActors := resetInterpolationActors applied }

def beginFrame (feed : SnapshotFeed) (order : TickSort) : SnapshotFeed :=
  if feed.state = .finished ∨ feed.state = .protocolError ∨ feed.state = .closed ∨
      feed.pending ≠ [] then feed
  else
    { feed with
      pending := order.sort feed.snapshotQueue
      snapshotQueue := []
      becameRunning := false }

/-- The frame ends with an error of the session. -/
def failFromCaller (feed : SnapshotFeed) : SnapshotFeed :=
  { feed with state := .protocolError, pending := [] }

/-- The predictor of the local actor, made with its first snapshot. -/
def ensurePredictor (feed : SnapshotFeed) (position : Vec2 Float32) :
    SnapshotFeed × Except Exception Bool :=
  match feed.predictor with
  | some _ => (feed, .ok true)
  | none =>
    attempt feed (ClientPredictor.create feed.navMesh position
        (defaultMatchConfig (R := Float32)).contenderSpeed 0.1) fun predictor =>
      let feed := { feed with predictor := some predictor }
      if feed.state = .synchronizing then
        ({ feed with state := .running, becameRunning := true }, .ok true)
      else (feed, .ok (feed.state = .running))

def reconcile (feed : SnapshotFeed) (position : Vec2 Float32) (ackInputSequence : UInt32) :
    SnapshotFeed × Except Exception Unit :=
  match feed.predictor with
  | none => (feed, .ok ())
  | some predictor =>
    let (predictor, outcome) := predictor.reconcile position ackInputSequence
    ({ feed with predictor := some predictor }, outcome)

/-- The buffer forgets the actors that start over and gets the world. -/
def present (feed : SnapshotFeed) (queued : PendingSnapshot) : SnapshotFeed :=
  { feed with
    interpolation :=
      (feed.interpolation.forgetActors queued.resetInterpolationActors).push
        (remoteSnapshot queued.snapshot) }

def takeSnapshot (feed : SnapshotFeed) : SnapshotFeed :=
  match feed.pending with
  | [] => feed
  | queued :: pending =>
    let feed := { feed with pending }
    match GameSession.findActor queued.snapshot.snapshot feed.localActor with
    | none => feed
    | some local' =>
      let position : Vec2 Float32 := ⟨local'.position.x, local'.position.z⟩
      let (feed, outcome) := feed.ensurePredictor position
      match outcome with
      | .error _ => feed.failFromCaller
      | .ok false => { feed with pending := [] }
      | .ok true =>
        let (feed, outcome) := feed.reconcile position queued.snapshot.ackInputSequence
        match outcome with
        | .error _ => feed.failFromCaller
        | .ok _ => feed.present queued

def endFrame (feed : SnapshotFeed) : SnapshotFeed :=
  match feed.predictor with
  | none => feed
  | some predictor =>
    if feed.state ≠ .running ∨ feed.becameRunning ∨ feed.pending ≠ [] then feed
    else
      let (predictor, outcome) := predictor.advanceTick
      let feed := { feed with predictor := some predictor }
      match outcome with
      | .error _ => feed.failFromCaller
      | .ok _ => feed

def setDestination (feed : SnapshotFeed) (destination : Vec2 Float32) : SnapshotFeed :=
  if feed.state ≠ .running then feed
  else
    { feed with
      predictor := feed.predictor.map fun predictor =>
        (predictor.setDestination destination).1 }

def step (feed : SnapshotFeed) : FeedEvent → SnapshotFeed
  | .completed snapshotId serverTick ackInputSequence payload =>
    feed.complete snapshotId serverTick ackInputSequence payload
  | .frameBegun order => feed.beginFrame order
  | .snapshotTaken => feed.takeSnapshot
  | .frameEnded => feed.endFrame
  | .setDestination destination => feed.setDestination destination
  | .stateChanged state => { feed with state }

def initial (navMesh : NavMesh Float32) (localActor : EntityId) : SnapshotFeed where
  navMesh := navMesh
  localActor := localActor

/-! ## What is kept of the worlds in between -/

/-- Neighbours in a buffer. -/
def Adjacent (snapshots : List (RemoteSnapshot Float32))
    (older newer : RemoteSnapshot Float32) : Prop :=
  ∃ index : Nat, snapshots[index]? = some older ∧ snapshots[index + 1]? = some newer

def remoteIds (snapshot : RemoteSnapshot Float32) : List EntityId :=
  snapshot.snapshot.actors.map SceneActor.id

/-- A remote actor of both snapshots is in all worlds applied between them. -/
def Linked (localActor : EntityId) (applied : List ReassembledSnapshot)
    (older newer : RemoteSnapshot Float32) : Prop :=
  ∀ actor ≠ localActor, actor ∈ remoteIds older → actor ∈ remoteIds newer →
    ∀ world ∈ applied, older.snapshotId < world.snapshotId →
      world.snapshotId < newer.snapshotId → actor ∈ actorIds world.snapshot

/-- When a world with the local actor comes after the newest buffered one, every remote
actor of both that does not start over is in all worlds applied between them. -/
def Keeps (feed : SnapshotFeed) : FeedEvent → Prop
  | .snapshotTaken =>
    ∀ queued newest, feed.pending.head? = some queued →
      feed.interpolation.snapshots.getLast? = some newest →
      (GameSession.findActor queued.snapshot.snapshot feed.localActor).isSome = true →
      feed.interpolation.outdated (remoteSnapshot queued.snapshot) = false →
      ∀ actor ≠ feed.localActor, actor ∉ queued.resetInterpolationActors →
        actor ∈ remoteIds newest → actor ∈ remoteIds (remoteSnapshot queued.snapshot) →
        ∀ world ∈ feed.applied, newest.snapshotId < world.snapshotId →
          world.snapshotId < queued.snapshot.snapshotId → actor ∈ actorIds world.snapshot
  | _ => True

theorem adjacent_mem {snapshots : List (RemoteSnapshot Float32)}
    {older newer : RemoteSnapshot Float32} (h : Adjacent snapshots older newer) :
    newer ∈ snapshots := by
  obtain ⟨index, -, hnewer⟩ := h
  exact List.mem_of_getElem? hnewer

/-- Neighbours after a push are neighbours before it, or the newest snapshot and the new
one. -/
theorem adjacent_push {interpolation : RemoteInterpolator Float32}
    {snapshot older newer : RemoteSnapshot Float32}
    (h : Adjacent (interpolation.push snapshot).snapshots older newer) :
    Adjacent interpolation.snapshots older newer ∨
      (interpolation.outdated snapshot = false ∧
        interpolation.snapshots.getLast? = some older ∧ newer = snapshot) := by
  unfold RemoteInterpolator.push at h
  split at h
  · exact .inl h
  · rename_i hnew
    obtain ⟨index, holder, hnewer⟩ := h
    dsimp only at holder hnewer
    generalize (interpolation.snapshots ++ [snapshot]).length - interpolation.capacity =
      count at holder hnewer
    rw [List.getElem?_drop] at holder hnewer
    rw [← Nat.add_assoc] at hnewer
    generalize count + index = position at holder hnewer
    obtain hlt | hge := Nat.lt_or_ge (position + 1) interpolation.snapshots.length
    · rw [List.getElem?_append_left (Nat.lt_of_succ_lt hlt)] at holder
      rw [List.getElem?_append_left hlt] at hnewer
      exact .inl ⟨position, holder, hnewer⟩
    · rw [List.getElem?_append_right hge, List.getElem?_singleton] at hnewer
      split at hnewer
      · rename_i hzero
        cases hnewer
        have hlast : position = interpolation.snapshots.length - 1 := by omega
        have hlt : position < interpolation.snapshots.length := by omega
        rw [List.getElem?_append_left hlt, hlast, ← List.getLast?_eq_getElem?] at holder
        exact .inr ⟨Bool.eq_false_iff.mpr hnew, holder, rfl⟩
      · cases hnewer

/-- Neighbours after actors were forgotten were neighbours with more actors. -/
theorem adjacent_forgetActors {interpolation : RemoteInterpolator Float32}
    {actors : List EntityId} {older newer : RemoteSnapshot Float32}
    (h : Adjacent (interpolation.forgetActors actors).snapshots older newer) :
    ∃ before after, Adjacent interpolation.snapshots before after ∧
      older = RemoteInterpolator.forget actors before ∧
      newer = RemoteInterpolator.forget actors after := by
  have hforget : ∀ snapshot : RemoteSnapshot Float32, actors.isEmpty →
      RemoteInterpolator.forget actors snapshot = snapshot := by
    intro snapshot hempty
    rw [List.isEmpty_iff.mp hempty, RemoteInterpolator.forget]
    simp
  unfold RemoteInterpolator.forgetActors at h
  split at h
  · rename_i hempty
    exact ⟨older, newer, h, (hforget older hempty).symm, (hforget newer hempty).symm⟩
  · obtain ⟨index, holder, hnewer⟩ := h
    rw [List.getElem?_map, Option.map_eq_some_iff] at holder hnewer
    obtain ⟨before, hbefore, rfl⟩ := holder
    obtain ⟨after, hafter, rfl⟩ := hnewer
    exact ⟨before, after, ⟨index, hbefore, hafter⟩, rfl, rfl⟩

theorem mem_remoteIds_forget {actors : List EntityId} {snapshot : RemoteSnapshot Float32}
    {actor : EntityId} (h : actor ∈ remoteIds (RemoteInterpolator.forget actors snapshot)) :
    actor ∈ remoteIds snapshot ∧ actor ∉ actors := by
  obtain ⟨original, horiginal, rfl⟩ := List.mem_map.mp h
  obtain ⟨hkept, hforgotten⟩ := RemoteInterpolator.mem_forget.mp horiginal
  exact ⟨List.mem_map_of_mem hkept, hforgotten⟩

theorem Linked.forget {localActor : EntityId} {applied : List ReassembledSnapshot}
    {older newer : RemoteSnapshot Float32} (h : Linked localActor applied older newer)
    (actors : List EntityId) :
    Linked localActor applied (RemoteInterpolator.forget actors older)
      (RemoteInterpolator.forget actors newer) :=
  fun actor hremote holder hnewer =>
    h actor hremote (mem_remoteIds_forget holder).1 (mem_remoteIds_forget hnewer).1

/-- Forgetting actors does not change what is outdated. -/
theorem outdated_forgetActors (interpolation : RemoteInterpolator Float32)
    (actors : List EntityId) (snapshot : RemoteSnapshot Float32) :
    (interpolation.forgetActors actors).outdated snapshot =
      interpolation.outdated snapshot := by
  unfold RemoteInterpolator.forgetActors
  split
  · rfl
  · unfold RemoteInterpolator.outdated
    rw [List.getLast?_map, Option.any_map]
    rfl

theorem getLast?_forgetActors {interpolation : RemoteInterpolator Float32}
    {actors : List EntityId} {newest : RemoteSnapshot Float32}
    (h : (interpolation.forgetActors actors).snapshots.getLast? = some newest) :
    ∃ before, interpolation.snapshots.getLast? = some before ∧
      newest = RemoteInterpolator.forget actors before := by
  unfold RemoteInterpolator.forgetActors at h
  split at h
  · rename_i hempty
    refine ⟨newest, h, ?_⟩
    rw [List.isEmpty_iff.mp hempty, RemoteInterpolator.forget]
    simp
  · rw [List.getLast?_map, Option.map_eq_some_iff] at h
    obtain ⟨before, hbefore, rfl⟩ := h
    exact ⟨before, hbefore, rfl⟩

/-! ## The stream -/

theorem hasSeen_iff {stream : ClientSnapshotStream} {snapshotId : UInt32} :
    stream.hasSeen snapshotId = true ↔
      ∃ highest, stream.highestSeenSnapshotId = some highest ∧ snapshotId ≤ highest := by
  simp [ClientSnapshotStream.hasSeen, Option.any_eq_true]

/-- What the stream has seen it has seen after an application too. -/
theorem hasSeen_apply (stream : ClientSnapshotStream) (snapshotId : UInt32)
    (payload : SnapshotPayload) {earlier : UInt32} (h : stream.hasSeen earlier = true) :
    (stream.apply snapshotId payload).1.hasSeen earlier = true := by
  obtain ⟨highest, hhighest, hle⟩ := hasSeen_iff.mp h
  have hmore : stream.hasSeen snapshotId = false → highest < snapshotId := by
    intro hunseen
    by_contra hnot
    rw [hasSeen_iff.mpr ⟨highest, hhighest, not_lt.mp hnot⟩] at hunseen
    cases hunseen
  have hstep := stream.apply_step snapshotId payload
  generalize stream.apply snapshotId payload = result at hstep ⊢
  cases hstep with
  | silent next outcome unpublished baselines hnext unmerged =>
    obtain hsame | ⟨hunseen, hnew⟩ := hnext
    · exact hasSeen_iff.mpr ⟨highest, hsame.trans hhighest, hle⟩
    · exact hasSeen_iff.mpr ⟨snapshotId, hnew, hle.trans (hmore hunseen).le⟩
  | published next outcome quantized world source world_eq baselines unseen hnext =>
    exact hasSeen_iff.mpr ⟨snapshotId, hnext, hle.trans (hmore unseen).le⟩

/-- A published world is above everything seen, and seen from then on. -/
theorem apply_published {stream : ClientSnapshotStream} {snapshotId : UInt32}
    {payload : SnapshotPayload} {applied : SnapshotApplyResult} {world : GameSnapshot}
    (happlied : (stream.apply snapshotId payload).2 = .ok applied)
    (hworld : applied.world = some world) :
    stream.hasSeen snapshotId = false ∧
      (stream.apply snapshotId payload).1.hasSeen snapshotId = true := by
  have hstep := stream.apply_step snapshotId payload
  generalize stream.apply snapshotId payload = result at hstep happlied ⊢
  cases hstep with
  | silent next outcome unpublished baselines hnext unmerged =>
    have hok : outcome = .ok applied := happlied
    have hnone : applied.world = none := by
      rw [hok] at unpublished
      exact unpublished
    rw [hworld] at hnone
    cases hnone
  | published next outcome quantized published source world_eq baselines unseen hnext =>
    exact ⟨unseen, hasSeen_iff.mpr ⟨snapshotId, hnext, le_rfl⟩⟩

/-! ## The invariant -/

/-- The stream has seen all that the feed holds, and neighbours of the buffer are linked. -/
structure Held (feed : SnapshotFeed) : Prop where
  applied : ∀ world ∈ feed.applied,
    feed.snapshotStream.hasSeen world.snapshotId = true
  queued : ∀ queued ∈ feed.snapshotQueue ++ feed.pending,
    feed.snapshotStream.hasSeen queued.snapshot.snapshotId = true
  buffered : ∀ entry ∈ feed.interpolation.snapshots,
    feed.snapshotStream.hasSeen entry.snapshotId = true
  linked : ∀ older newer, Adjacent feed.interpolation.snapshots older newer →
    Linked feed.localActor feed.applied older newer

/-- The feed without its predictor and the state of the session. -/
def core (feed : SnapshotFeed) : SnapshotFeed :=
  { feed with state := .idle, becameRunning := false, predictor := none }

theorem held_core {feed : SnapshotFeed} : Held feed.core ↔ Held feed :=
  ⟨fun h => ⟨h.applied, h.queued, h.buffered, h.linked⟩,
    fun h => ⟨h.applied, h.queued, h.buffered, h.linked⟩⟩

/-- A step that drops snapshots of the frame at most. -/
theorem Held.pending {feed after : SnapshotFeed} (h : Held feed)
    {pending : List PendingSnapshot} (hsubset : pending ⊆ feed.pending)
    (hcore : after.core = { feed with pending }.core) : Held after := by
  rw [← held_core, hcore, held_core]
  refine ⟨h.applied, fun queued hqueued => h.queued queued ?_, h.buffered, h.linked⟩
  obtain hqueue | hpending := List.mem_append.mp hqueued
  · exact List.mem_append_left _ hqueue
  · exact List.mem_append_right _ (hsubset hpending)

theorem held_complete {feed : SnapshotFeed} (h : Held feed)
    (snapshotId serverTick ackInputSequence : UInt32) (payload : SnapshotPayload) :
    Held (feed.complete snapshotId serverTick ackInputSequence payload) := by
  unfold complete
  split
  · exact h
  · have hseen : ∀ earlier, feed.snapshotStream.hasSeen earlier = true →
        (feed.snapshotStream.apply snapshotId payload).1.hasSeen earlier = true :=
      fun _ => hasSeen_apply feed.snapshotStream snapshotId payload
    have hsame : Held { feed with
        snapshotStream := (feed.snapshotStream.apply snapshotId payload).1 } :=
      ⟨fun world hworld => hseen _ (h.applied world hworld),
        fun queued hqueued => hseen _ (h.queued queued hqueued),
        fun entry hentry => hseen _ (h.buffered entry hentry), h.linked⟩
    dsimp only
    split
    · exact ⟨hsame.applied, hsame.queued, hsame.buffered, hsame.linked⟩
    · rename_i applied happlied
      split
      · exact hsame
      · rename_i world hworld
        obtain ⟨hunseen, hnew⟩ := apply_published happlied hworld
        refine ⟨fun other hother => ?_, fun queued hqueued => ?_, hsame.buffered, ?_⟩
        · obtain hold | hlast := List.mem_append.mp hother
          · exact hsame.applied other hold
          · rw [List.mem_singleton.mp hlast]
            exact hnew
        · obtain hqueue | hpending := List.mem_append.mp hqueued
          · obtain hold | hlast := List.mem_append.mp hqueue
            · refine hsame.queued queued (List.mem_append_left _ ?_)
              split at hold
              · exact List.mem_of_mem_drop hold
              · exact hold
            · rw [List.mem_singleton.mp hlast]
              exact hnew
          · exact hsame.queued queued (List.mem_append_right _ hpending)
        · intro older newer hadjacent actor hremote holder hnewer other hother hlow hhigh
          obtain hold | hlast := List.mem_append.mp hother
          · exact h.linked older newer hadjacent actor hremote holder hnewer other hold
              hlow hhigh
          · rw [List.mem_singleton.mp hlast] at hhigh
            obtain ⟨highest, hhighest, hle⟩ :=
              hasSeen_iff.mp (h.buffered newer (adjacent_mem hadjacent))
            rw [hasSeen_iff.mpr ⟨highest, hhighest, hhigh.le.trans hle⟩] at hunseen
            cases hunseen

theorem held_beginFrame {feed : SnapshotFeed} (h : Held feed) (order : TickSort) :
    Held (feed.beginFrame order) := by
  unfold beginFrame
  split
  · exact h
  · refine ⟨h.applied, fun queued hqueued => ?_, h.buffered, h.linked⟩
    have hsorted : queued ∈ order.sort feed.snapshotQueue := hqueued
    exact h.queued queued
      (List.mem_append_left _ ((order.perm feed.snapshotQueue).mem_iff.mp hsorted))

/-- The buffer with a new world is linked when the world keeps its remote actors. -/
theorem held_present {feed : SnapshotFeed} (h : Held feed) {queued : PendingSnapshot}
    (hqueued : feed.pending.head? = some queued)
    (hlocal : (GameSession.findActor queued.snapshot.snapshot feed.localActor).isSome = true)
    (hkeeps : feed.Keeps .snapshotTaken) :
    Held ({ feed with pending := feed.pending.tail }.present queued) := by
  have hmem : queued ∈ feed.pending := List.mem_of_head? hqueued
  refine ⟨h.applied, fun other hother => h.queued other ?_, fun entry hentry => ?_,
    fun older newer hadjacent => ?_⟩
  · obtain hqueue | htail := List.mem_append.mp hother
    · exact List.mem_append_left _ hqueue
    · exact List.mem_append_right _ (List.mem_of_mem_tail htail)
  · obtain hold | rfl := RemoteInterpolator.mem_push hentry
    · obtain ⟨original, horiginal, rfl⟩ := RemoteInterpolator.mem_forgetActors hold
      exact h.buffered original horiginal
    · exact h.queued queued (List.mem_append_right _ hmem)
  · obtain hold | ⟨hnew, hlast, rfl⟩ := adjacent_push hadjacent
    · obtain ⟨before, after, hbefore, rfl, rfl⟩ := adjacent_forgetActors hold
      exact (h.linked before after hbefore).forget _
    · obtain ⟨newest, hnewest, rfl⟩ := getLast?_forgetActors hlast
      rw [outdated_forgetActors] at hnew
      intro actor hremote holder hnewer
      obtain ⟨hkept, hcontinues⟩ := mem_remoteIds_forget holder
      exact hkeeps queued newest hqueued hnewest hlocal hnew actor hremote hcontinues hkept
        hnewer

/-! ## Frames -/

theorem ensurePredictor_core (feed : SnapshotFeed) (position : Vec2 Float32) :
    (feed.ensurePredictor position).1.core = feed.core := by
  unfold ensurePredictor
  split
  · rfl
  · apply attempt_keeps core rfl
    intro predictor
    dsimp only
    split <;> rfl

theorem reconcile_core (feed : SnapshotFeed) (position : Vec2 Float32)
    (ackInputSequence : UInt32) :
    (feed.reconcile position ackInputSequence).1.core = feed.core := by
  unfold reconcile
  split <;> rfl

/-- A snapshot that is taken is dropped, ends the frame or goes to the buffer. -/
theorem takeSnapshot_cases (feed : SnapshotFeed) :
    (∃ pending, pending ⊆ feed.pending ∧
        feed.takeSnapshot.core = { feed with pending }.core) ∨
      ∃ queued, feed.pending.head? = some queued ∧
        (GameSession.findActor queued.snapshot.snapshot feed.localActor).isSome = true ∧
        feed.takeSnapshot.core =
          ({ feed with pending := feed.pending.tail }.present queued).core := by
  unfold takeSnapshot
  cases hpending : feed.pending with
  | nil =>
    refine .inl ⟨[], List.Subset.refl _, ?_⟩
    show feed.core = { feed with pending := [] }.core
    rw [← hpending]
  | cons queued pending =>
    dsimp only
    cases hlocal : GameSession.findActor queued.snapshot.snapshot feed.localActor with
    | none => exact .inl ⟨pending, List.subset_cons_self _ _, rfl⟩
    | some local' =>
      dsimp only
      have hensure := ensurePredictor_core { feed with pending }
        ⟨local'.position.x, local'.position.z⟩
      generalize ensurePredictor { feed with pending }
        ⟨local'.position.x, local'.position.z⟩ = ensured at hensure ⊢
      obtain ⟨ensured, outcome⟩ := ensured
      dsimp only at hensure ⊢
      cases outcome with
      | error e =>
        refine .inl ⟨[], List.nil_subset _, ?_⟩
        exact congrArg (fun feed : SnapshotFeed => { feed with pending := [] }.core) hensure
      | ok continues =>
        cases continues with
        | false =>
          refine .inl ⟨[], List.nil_subset _, ?_⟩
          exact congrArg (fun feed : SnapshotFeed => { feed with pending := [] }.core) hensure
        | true =>
          dsimp only
          have hreconcile := (reconcile_core ensured
            ⟨local'.position.x, local'.position.z⟩
            queued.snapshot.ackInputSequence).trans hensure
          generalize reconcile ensured ⟨local'.position.x, local'.position.z⟩
            queued.snapshot.ackInputSequence = reconciled at hreconcile ⊢
          obtain ⟨reconciled, outcome⟩ := reconciled
          dsimp only at hreconcile ⊢
          cases outcome with
          | error e =>
            refine .inl ⟨[], List.nil_subset _, ?_⟩
            exact congrArg (fun feed : SnapshotFeed => { feed with pending := [] }.core)
              hreconcile
          | ok done =>
            have hpresent := congrArg
              (fun feed : SnapshotFeed => (feed.present queued).core) hreconcile
            exact .inr ⟨queued, rfl, hlocal ▸ rfl, hpresent⟩

theorem held_takeSnapshot {feed : SnapshotFeed} (h : Held feed)
    (hkeeps : feed.Keeps .snapshotTaken) : Held feed.takeSnapshot := by
  obtain ⟨pending, hsubset, hcore⟩ | ⟨queued, hqueued, hlocal, hcore⟩ :=
    feed.takeSnapshot_cases
  · exact h.pending hsubset hcore
  · rw [← held_core, hcore, held_core]
    exact held_present h hqueued hlocal hkeeps

theorem endFrame_core (feed : SnapshotFeed) :
    ∃ pending, pending ⊆ feed.pending ∧ feed.endFrame.core = { feed with pending }.core := by
  unfold endFrame
  split
  · exact ⟨_, List.Subset.refl _, rfl⟩
  · split
    · exact ⟨_, List.Subset.refl _, rfl⟩
    · dsimp only
      split
      · exact ⟨[], List.nil_subset _, rfl⟩
      · exact ⟨_, List.Subset.refl _, rfl⟩

theorem setDestination_core (feed : SnapshotFeed) (destination : Vec2 Float32) :
    (feed.setDestination destination).core = feed.core := by
  unfold setDestination
  split <;> rfl

theorem held_step {feed : SnapshotFeed} (event : FeedEvent) (hkeeps : feed.Keeps event)
    (h : Held feed) : Held (feed.step event) := by
  cases event with
  | completed snapshotId serverTick ackInputSequence payload =>
    exact held_complete h snapshotId serverTick ackInputSequence payload
  | frameBegun order => exact held_beginFrame h order
  | snapshotTaken => exact held_takeSnapshot h hkeeps
  | frameEnded =>
    obtain ⟨pending, hsubset, hcore⟩ := feed.endFrame_core
    exact h.pending hsubset hcore
  | setDestination destination =>
    exact h.pending (List.Subset.refl _) (feed.setDestination_core destination)
  | stateChanged state => exact h.pending (List.Subset.refl _) rfl

theorem initial_held (navMesh : NavMesh Float32) (localActor : EntityId) :
    Held (initial navMesh localActor) := by
  refine ⟨fun world hworld => ?_, fun queued hqueued => ?_, fun entry hentry => ?_,
    fun older newer hadjacent => ?_⟩
  · cases hworld
  · cases hqueued
  · cases hentry
  · cases adjacent_mem hadjacent

/-- The position of a shown actor is that of one world, or it lies between its positions in
two worlds, and all worlds applied between these hold the actor. -/
inductive Continuous (feed : SnapshotFeed) (actor : SceneActor Float32) : Prop
  | alone {snapshot : RemoteSnapshot Float32}
      (hsnapshot : snapshot ∈ feed.interpolation.snapshots)
      (hactor : actor ∈ snapshot.snapshot.actors)
  | blended {older newer : RemoteSnapshot Float32} {source original : SceneActor Float32}
      {targetTick : UInt32}
      (hbrackets : RemoteInterpolator.Brackets feed.interpolation.snapshots targetTick
        older newer)
      (hsource : source ∈ older.snapshot.actors)
      (horiginal : original ∈ newer.snapshot.actors) (hid : source.id = original.id)
      (hactor : actor = { original with
        position := RemoteInterpolator.blend source.position original.position
          (RemoteInterpolator.alpha older newer targetTick) })
      (hworlds : ∀ world ∈ feed.applied, older.snapshotId < world.snapshotId →
        world.snapshotId < newer.snapshotId → actor.id ∈ actorIds world.snapshot)

theorem nearest_mem {snapshots : List (RemoteSnapshot Float32)} {targetTick : UInt32}
    {snapshot : RemoteSnapshot Float32}
    (h : RemoteInterpolator.Nearest snapshots targetTick snapshot) : snapshot ∈ snapshots := by
  cases h with
  | oldest holdest htick => exact List.mem_of_head? holdest
  | newest hnewest htick => exact List.mem_of_getLast? hnewest
  | exact hmem htick => exact hmem

def tickInsertionSort : TickSort where
  sort pending := pending.insertionSort fun left right =>
    left.snapshot.serverTick ≤ right.snapshot.serverTick
  perm pending := List.perm_insertionSort _ pending
  sorted pending := by
    have : Std.Total fun left right : PendingSnapshot =>
        left.snapshot.serverTick ≤ right.snapshot.serverTick := ⟨fun _ _ => le_total _ _⟩
    have : IsTrans PendingSnapshot fun left right =>
        left.snapshot.serverTick ≤ right.snapshot.serverTick := ⟨fun _ _ _ => le_trans⟩
    exact List.pairwise_insertionSort _ pending

/-- A square in coarse cells. -/
def feedMesh : Except Exception (NavMesh Float32) :=
  NavMesh.build [⟨-128, -128⟩, ⟨128, -128⟩, ⟨-128, 128⟩, ⟨128, 128⟩]
    [⟨0, 1, 2⟩, ⟨1, 3, 2⟩] 256

/-- The third and the fourth contender enter. -/
def enteringPair : SnapshotPayload where
  header := { kind := .delta, valueEncoding := .quantized,
              baseSnapshotId := 1, payloadSnapshotId := 2 }
  actorValues := [{ id := ⟨3⟩ }, { id := ⟨4⟩ }]

/-- Both are back, and the fourth contender is somewhere else. -/
def returningPair : SnapshotPayload where
  header := { kind := .delta, valueEncoding := .quantized,
              baseSnapshotId := 2, payloadSnapshotId := 4 }
  actorDeltas := [{ id := ⟨4⟩, fields := .position, position := ⟨65535, 0⟩ }]

/-- A snapshot arrives and the next frame takes it. -/
def arrival (snapshotId serverTick : UInt32) (payload : SnapshotPayload) : List FeedEvent :=
  [.completed snapshotId serverTick 0 payload, .frameBegun tickInsertionSort, .snapshotTaken]

/-- The third world is a delta against the first one, and holds neither of the two. -/
def lostWorld : List FeedEvent :=
  arrival 1 5 ClientSnapshotStream.runningKeyframe ++ arrival 2 10 enteringPair ++
    arrival 3 12 ClientSnapshotStream.staleDelta ++ arrival 4 20 returningPair

/-- The actor is where no buffered world has it, between worlds around one without it. -/
def Torn (feed : SnapshotFeed) (actor : SceneActor Float32) : Prop :=
  (∀ snapshot ∈ feed.interpolation.snapshots, ∀ other ∈ snapshot.snapshot.actors,
    other.id = actor.id → other.position ≠ actor.position) ∧
  ∃ world ∈ feed.applied, actor.id ∉ actorIds world.snapshot ∧
    ∀ older ∈ feed.interpolation.snapshots, ∀ newer ∈ feed.interpolation.snapshots,
      older.serverTick < newer.serverTick →
        older.snapshotId < world.snapshotId ∧ world.snapshotId < newer.snapshotId

instance (feed : SnapshotFeed) (actor : SceneActor Float32) : Decidable (feed.Torn actor) :=
  inferInstanceAs (Decidable (_ ∧ _))

theorem Torn.not_continuous {feed : SnapshotFeed} {actor : SceneActor Float32}
    (h : feed.Torn actor) : ¬feed.Continuous actor := by
  obtain ⟨hposition, world, hworld, habsent, haround⟩ := h
  intro hcontinuous
  cases hcontinuous with
  | alone hsnapshot hactor => exact hposition _ hsnapshot actor hactor rfl rfl
  | blended hbrackets hsource horiginal hid hactor hworlds =>
    obtain ⟨hlow, hhigh⟩ := haround _ hbrackets.older_mem _ (adjacent_mem hbrackets.adjacent)
      (hbrackets.older_lt.trans hbrackets.lt_newer)
    exact habsent (hworlds world hworld hlow hhigh)

/-- No applied world lies between the newest buffered one and the next of the frame. -/
def Gapless (feed : SnapshotFeed) : Prop :=
  ∀ newest ∈ feed.interpolation.snapshots.getLast?, ∀ queued ∈ feed.pending.head?,
    ∀ world ∈ feed.applied, newest.snapshotId < world.snapshotId →
      ¬world.snapshotId < queued.snapshot.snapshotId

instance (feed : SnapshotFeed) : Decidable feed.Gapless :=
  inferInstanceAs (Decidable (∀ newest ∈ _, ∀ queued ∈ _, ∀ world ∈ _, _ → _))

theorem Gapless.keeps {feed : SnapshotFeed} (h : feed.Gapless) (event : FeedEvent) :
    feed.Keeps event := by
  cases event with
  | snapshotTaken =>
    intro queued newest hqueued hnewest _ _ actor _ _ _ _ world hworld hlow hhigh
    exact absurd hhigh (h newest hnewest queued hqueued world hworld hlow)
  | _ => trivial

/-- A run in which every world reaches the buffer. -/
def steadyRun : List FeedEvent :=
  arrival 1 5 ClientSnapshotStream.runningKeyframe ++ arrival 2 10 enteringPair

end SnapshotFeed

end SurvivalArena
