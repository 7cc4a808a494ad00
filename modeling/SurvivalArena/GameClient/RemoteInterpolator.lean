import SurvivalArena.Framework.Machine
import SurvivalArena.Replication.ClientSnapshotStream
import SurvivalArena.Simulation.Math2

/-!
# Remote interpolation

The client buffers the latest worlds and shows the remote actors a few ticks in the past,
between the two buffered worlds around that time.
-/

namespace SurvivalArena

open Machine

/-- The numbers that positions are blended in. -/
class Blendable (R : Type) extends Add R, Sub R, Mul R, Div R where
  ofUInt32 : UInt32 → R

attribute [instance (low)] Blendable.toAdd Blendable.toSub Blendable.toMul
  Blendable.toDiv

instance : Blendable Float32 where
  ofUInt32 := UInt32.toFloat32

@[reducible]
instance exactBlendable {K : Type} [Field K] : Blendable K where
  ofUInt32 number := (number.toNat : K)

/-- The snapshot of an actor with its position over the numbers `R`. -/
structure SceneActor (R : Type) where
  id : EntityId
  role : NetworkActorRole := .contender
  neutralArchetype : NetworkNeutralArchetype := .none
  position : Vec2 R
  health : Int32 := 100
  alive : Bool := true
  weapon : NetworkWeaponType := .blade
  cooldownTicksRemaining : UInt32 := 0
  eliminations : UInt32 := 0

/-- The snapshot of a world with the positions of its actors over the numbers `R`. -/
structure SceneSnapshot (R : Type) where
  phase : NetworkMatchPhase := .waiting
  safeZoneStage : NetworkSafeZoneStage := .stage1
  safeZoneCenter : NetworkVec2 := {}
  safeZoneRadius : Float32 := 128
  aliveContenders : UInt32 := 0
  actors : List (SceneActor R) := []
  loot : List NetworkLootSnapshot := []
  result : NetworkMatchResult := {}
  hasResult : Bool := false
  eventChecksum : UInt64 := 0

structure RemoteSnapshot (R : Type) where
  snapshotId : UInt32
  serverTick : UInt32
  snapshot : SceneSnapshot R

structure RemoteInterpolator (R : Type) where
  interpolationDelayTicks : UInt32 := 3
  capacity : Nat := maxClientSnapshotBuffer
  snapshots : List (RemoteSnapshot R) := []

variable {R : Type}

def excludeLocalActor (snapshot : SceneSnapshot R) (localActor : Option EntityId) :
    SceneSnapshot R :=
  match localActor with
  | none => snapshot
  | some localActor =>
    match snapshot.actors.find? fun candidate => candidate.id == localActor with
    | none => snapshot
    | some actor =>
      { snapshot with
        aliveContenders :=
          if actor.role = .contender ∧ actor.alive ∧ 0 < snapshot.aliveContenders then
            snapshot.aliveContenders - 1
          else snapshot.aliveContenders
        actors := snapshot.actors.eraseP fun candidate => candidate.id == localActor }

namespace RemoteInterpolator

def create (interpolationDelayTicks : UInt32) (capacity : Nat) :
    Except Exception (RemoteInterpolator R) :=
  if capacity = 0 ∨ maxClientSnapshotBuffer < capacity then
    .error (.invalidArgument "remote interpolation capacity is invalid")
  else .ok { interpolationDelayTicks, capacity }

/-- The snapshot does not come after the newest one of the buffer. -/
def outdated (interpolator : RemoteInterpolator R) (snapshot : RemoteSnapshot R) : Bool :=
  interpolator.snapshots.getLast?.any fun newest =>
    decide (snapshot.serverTick ≤ newest.serverTick) ||
      decide (snapshot.snapshotId ≤ newest.snapshotId)

def push (interpolator : RemoteInterpolator R) (snapshot : RemoteSnapshot R) :
    RemoteInterpolator R :=
  if interpolator.outdated snapshot then interpolator
  else
    let snapshots := interpolator.snapshots ++ [snapshot]
    { interpolator with
      snapshots := snapshots.drop (snapshots.length - interpolator.capacity) }

/-- The snapshot without some actors. -/
def forget (actors : List EntityId) (snapshot : RemoteSnapshot R) : RemoteSnapshot R :=
  { snapshot with
    snapshot := { snapshot.snapshot with
      actors := snapshot.snapshot.actors.filter fun actor => !actors.contains actor.id } }

def forgetActors (interpolator : RemoteInterpolator R) (actors : List EntityId) :
    RemoteInterpolator R :=
  if actors.isEmpty then interpolator
  else { interpolator with snapshots := interpolator.snapshots.map (forget actors) }

/-- The tick that is shown when a tick is the newest one. -/
def targetTick (interpolator : RemoteInterpolator R) (newestTick : UInt32) : UInt32 :=
  if interpolator.interpolationDelayTicks < newestTick then
    newestTick - interpolator.interpolationDelayTicks
  else 0

section Sampling

variable [Blendable R]

/-- How far a tick lies between the ticks of two snapshots. -/
def alpha (older newer : RemoteSnapshot R) (targetTick : UInt32) : R :=
  Blendable.ofUInt32 (targetTick - older.serverTick) /
    Blendable.ofUInt32 (newer.serverTick - older.serverTick)

def blend (source position : Vec2 R) (alpha : R) : Vec2 R where
  x := source.x + (position.x - source.x) * alpha
  z := source.z + (position.z - source.z) * alpha

/-- An actor of the newer snapshot, moved from where the older one has it. -/
def blendActor (older : List (SceneActor R)) (alpha : R) (actor : SceneActor R) :
    SceneActor R :=
  match older.find? fun candidate => !decide (candidate.id < actor.id) with
  | none => actor
  | some source =>
    if source.id = actor.id then
      { actor with position := blend source.position actor.position alpha }
    else actor

def interpolated (older newer : RemoteSnapshot R) (targetTick : UInt32) : SceneSnapshot R :=
  { newer.snapshot with
    actors := newer.snapshot.actors.map
      (blendActor older.snapshot.actors (alpha older newer targetTick)) }

/-- The world around a tick, in a buffer that has ticks on both sides of it. -/
def between (snapshots : List (RemoteSnapshot R)) (newest : RemoteSnapshot R)
    (targetTick : UInt32) : SceneSnapshot R :=
  let index := snapshots.findIdx fun snapshot => !decide (snapshot.serverTick < targetTick)
  match snapshots[index]? with
  | none => newest.snapshot
  | some newer =>
    if newer.serverTick = targetTick then newer.snapshot
    else
      match index with
      | 0 => newer.snapshot
      | before + 1 =>
        match snapshots[before]? with
        | none => newer.snapshot
        | some older => interpolated older newer targetTick

def sample (interpolator : RemoteInterpolator R) (localActor : Option EntityId) :
    Except Exception (SceneSnapshot R) :=
  match interpolator.snapshots.head?, interpolator.snapshots.getLast? with
  | some oldest, some newest =>
    let targetTick := interpolator.targetTick newest.serverTick
    let sampled :=
      if targetTick ≤ oldest.serverTick then oldest.snapshot
      else if newest.serverTick ≤ targetTick then newest.snapshot
      else between interpolator.snapshots newest targetTick
    .ok (excludeLocalActor sampled localActor)
  | _, _ => .error (.logicError "remote interpolation buffer is empty")

end Sampling

end RemoteInterpolator

/-! ## The buffer -/

/-- Ticks and ids of the buffer both increase. -/
def Increasing (snapshots : List (RemoteSnapshot R)) : Prop :=
  snapshots.Pairwise fun earlier later =>
    earlier.serverTick < later.serverTick ∧ earlier.snapshotId < later.snapshotId

def RemoteSnapshot.Sorted (snapshot : RemoteSnapshot R) : Prop :=
  snapshot.snapshot.actors.Pairwise fun earlier later => earlier.id ≤ later.id

namespace RemoteInterpolator

theorem push_increasing {interpolator : RemoteInterpolator R}
    (h : Increasing interpolator.snapshots) (snapshot : RemoteSnapshot R) :
    Increasing (interpolator.push snapshot).snapshots := by
  unfold push
  split
  · exact h
  · rename_i hnew
    apply List.Pairwise.drop
    apply List.pairwise_append.mpr
    refine ⟨h, List.pairwise_singleton _ _, fun earlier hearlier later hlater => ?_⟩
    rw [List.mem_singleton.mp hlater]
    cases hlast : interpolator.snapshots.getLast? with
    | none =>
      rw [List.getLast?_eq_none_iff.mp hlast] at hearlier
      cases hearlier
    | some newest =>
      simp only [outdated, hlast, Option.any_some, Bool.or_eq_true, decide_eq_true_eq,
        not_or, not_le] at hnew
      obtain ⟨initial, hsplit⟩ := List.getLast?_eq_some_iff.mp hlast
      rw [hsplit] at h hearlier
      obtain hinitial | hnewest := List.mem_append.mp hearlier
      · have hbefore := (List.pairwise_append.mp h).2.2 earlier hinitial newest
          (List.mem_singleton_self newest)
        exact ⟨hbefore.1.trans hnew.1, hbefore.2.trans hnew.2⟩
      · rw [List.mem_singleton.mp hnewest]
        exact hnew

theorem push_length {interpolator : RemoteInterpolator R}
    (h : interpolator.snapshots.length ≤ interpolator.capacity)
    (snapshot : RemoteSnapshot R) :
    (interpolator.push snapshot).snapshots.length ≤ interpolator.capacity := by
  unfold push
  split
  · exact h
  · rw [List.length_drop]
    omega

/-- What a push keeps was in the buffer or is the new snapshot. -/
theorem mem_push {interpolator : RemoteInterpolator R} {snapshot entry : RemoteSnapshot R}
    (h : entry ∈ (interpolator.push snapshot).snapshots) :
    entry ∈ interpolator.snapshots ∨ entry = snapshot := by
  unfold push at h
  split at h
  · exact .inl h
  · obtain hold | hnew := List.mem_append.mp (List.mem_of_mem_drop h)
    · exact .inl hold
    · exact .inr (List.mem_singleton.mp hnew)

/-- What stays in the buffer when actors are forgotten. -/
theorem mem_forgetActors {interpolator : RemoteInterpolator R} {actors : List EntityId}
    {entry : RemoteSnapshot R} (h : entry ∈ (interpolator.forgetActors actors).snapshots) :
    ∃ original ∈ interpolator.snapshots, entry = forget actors original := by
  unfold forgetActors at h
  split at h
  · rename_i hempty
    refine ⟨entry, h, ?_⟩
    rw [List.isEmpty_iff.mp hempty, forget]
    simp
  · obtain ⟨original, horiginal, rfl⟩ := List.mem_map.mp h
    exact ⟨original, horiginal, rfl⟩

theorem mem_forget {actors : List EntityId} {original : RemoteSnapshot R}
    {actor : SceneActor R} :
    actor ∈ (forget actors original).snapshot.actors ↔
      actor ∈ original.snapshot.actors ∧ actor.id ∉ actors := by
  simp [forget]

theorem forgetActors_increasing {interpolator : RemoteInterpolator R}
    (h : Increasing interpolator.snapshots) (actors : List EntityId) :
    Increasing (interpolator.forgetActors actors).snapshots := by
  unfold forgetActors
  split
  · exact h
  · exact List.pairwise_map.mpr h

theorem forgetActors_length (interpolator : RemoteInterpolator R) (actors : List EntityId) :
    (interpolator.forgetActors actors).snapshots.length =
      interpolator.snapshots.length := by
  unfold forgetActors
  split
  · rfl
  · exact List.length_map _

theorem mem_excludeLocalActor {snapshot : SceneSnapshot R} {localActor : Option EntityId}
    {actor : SceneActor R} (h : actor ∈ (excludeLocalActor snapshot localActor).actors) :
    actor ∈ snapshot.actors := by
  unfold excludeLocalActor at h
  split at h
  · exact h
  · split at h
    · exact h
    · exact List.mem_of_mem_eraseP h

/-- In a sorted list the first actor not below an id is that actor, or it is not there. -/
theorem find_id {actors : List (SceneActor R)}
    (hsorted : actors.Pairwise fun earlier later => earlier.id ≤ later.id)
    {id : EntityId} {found : Option (SceneActor R)}
    (hfound : actors.find? (fun candidate => !decide (candidate.id < id)) = found)
    (hother : ∀ source ∈ found, source.id ≠ id) : ∀ source ∈ actors, source.id ≠ id := by
  intro source hsource
  cases found with
  | none =>
    have hbelow := List.find?_eq_none.mp hfound source hsource
    simp only [Bool.not_eq_true', decide_eq_false_iff_not, not_not] at hbelow
    exact hbelow.ne
  | some first =>
    obtain ⟨hfirst, before, later, rfl, hbefore⟩ :=
      List.find?_eq_some_iff_append.mp hfound
    simp only [Bool.not_eq_true', decide_eq_false_iff_not, not_lt] at hfirst
    have hne := hother first rfl
    obtain hmem | hmem := List.mem_append.mp hsource
    · have hbelow := hbefore source hmem
      simp only [Bool.not_eq_true', Bool.not_eq_false', decide_eq_true_eq] at hbelow
      exact hbelow.ne
    · have htail := (List.pairwise_append.mp hsorted).2.1
      have hle : first.id ≤ source.id := by
        obtain rfl | hlater := List.mem_cons.mp hmem
        · exact le_rfl
        · exact (List.pairwise_cons.mp htail).1 source hlater
      exact ((lt_of_le_of_ne hfirst hne.symm).trans_le hle).ne'

/-! ## Where a sampled position comes from -/

/-- The buffered snapshot that is shown alone for a tick. -/
inductive Nearest (snapshots : List (RemoteSnapshot R)) (targetTick : UInt32)
    (snapshot : RemoteSnapshot R) : Prop
  | oldest (holdest : snapshots.head? = some snapshot)
      (htick : targetTick ≤ snapshot.serverTick)
  | newest (hnewest : snapshots.getLast? = some snapshot)
      (htick : snapshot.serverTick ≤ targetTick)
  | exact (hmem : snapshot ∈ snapshots) (htick : snapshot.serverTick = targetTick)

/-- The two neighbours in the buffer that a tick lies between. -/
structure Brackets (snapshots : List (RemoteSnapshot R)) (targetTick : UInt32)
    (older newer : RemoteSnapshot R) : Prop where
  adjacent : ∃ index : Nat, snapshots[index]? = some older ∧
    snapshots[index + 1]? = some newer
  older_lt : older.serverTick < targetTick
  lt_newer : targetTick < newer.serverTick

theorem Brackets.older_mem {snapshots : List (RemoteSnapshot R)} {targetTick : UInt32}
    {older newer : RemoteSnapshot R} (h : Brackets snapshots targetTick older newer) :
    older ∈ snapshots := by
  obtain ⟨index, holder, -⟩ := h.adjacent
  exact List.mem_of_getElem? holder

section Sampling

variable [Blendable R]

/-- The actor is as the nearest snapshot has it, as the newer neighbour has it when it is
absent from the older one, or on the way between the two. -/
inductive Sampled (snapshots : List (RemoteSnapshot R)) (targetTick : UInt32)
    (actor : SceneActor R) : Prop
  | held {snapshot : RemoteSnapshot R} (hnearest : Nearest snapshots targetTick snapshot)
      (hactor : actor ∈ snapshot.snapshot.actors)
  | entered {older newer : RemoteSnapshot R}
      (hbrackets : Brackets snapshots targetTick older newer)
      (hactor : actor ∈ newer.snapshot.actors)
      (habsent : ∀ source ∈ older.snapshot.actors, source.id ≠ actor.id)
  | blended {older newer : RemoteSnapshot R} {source original : SceneActor R}
      (hbrackets : Brackets snapshots targetTick older newer)
      (hsource : source ∈ older.snapshot.actors)
      (horiginal : original ∈ newer.snapshot.actors) (hid : source.id = original.id)
      (hactor : actor = { original with
        position := blend source.position original.position
          (alpha older newer targetTick) })

/-- An actor of an interpolated world is as the newer snapshot has it, or it is blended
with itself in the older one. -/
theorem interpolated_cases {older newer : RemoteSnapshot R} {targetTick : UInt32}
    {actor : SceneActor R} (hactor : actor ∈ (interpolated older newer targetTick).actors) :
    (actor ∈ newer.snapshot.actors ∧
        (older.Sorted → ∀ source ∈ older.snapshot.actors, source.id ≠ actor.id)) ∨
      ∃ source ∈ older.snapshot.actors, ∃ original ∈ newer.snapshot.actors,
        source.id = original.id ∧ actor = { original with
          position := blend source.position original.position
            (alpha older newer targetTick) } := by
  obtain ⟨original, horiginal, rfl⟩ := List.mem_map.mp hactor
  unfold blendActor
  cases hfound : older.snapshot.actors.find? fun candidate =>
      !decide (candidate.id < original.id) with
  | none =>
    exact .inl ⟨horiginal, fun hsorted => find_id hsorted hfound fun source hsource =>
      absurd hsource (Option.not_mem_none source)⟩
  | some source =>
    dsimp only
    split_ifs with hid
    · exact .inr ⟨source, List.mem_of_find?_eq_some hfound, original, horiginal, hid, rfl⟩
    · refine .inl ⟨horiginal, fun hsorted => find_id hsorted hfound fun first hfirst => ?_⟩
      rw [← Option.some_inj.mp hfirst]
      exact hid

/-- A tick beyond the oldest and before the newest one has neighbours in the buffer. -/
theorem between_cases {snapshots : List (RemoteSnapshot R)} {newest : RemoteSnapshot R}
    {targetTick : UInt32} (hnewest : newest ∈ snapshots)
    (hlt : targetTick < newest.serverTick)
    (holdest : ∀ oldest, snapshots.head? = some oldest → oldest.serverTick < targetTick) :
    (∃ snapshot, Nearest snapshots targetTick snapshot ∧
        between snapshots newest targetTick = snapshot.snapshot) ∨
      ∃ older newer, Brackets snapshots targetTick older newer ∧
        between snapshots newest targetTick = interpolated older newer targetTick := by
  have hindex : snapshots.findIdx (fun snapshot =>
      !decide (snapshot.serverTick < targetTick)) < snapshots.length :=
    List.findIdx_lt_length_of_exists ⟨newest, hnewest, by simp [hlt.le]⟩
  have hnewer := List.findIdx_getElem (w := hindex)
  unfold between
  generalize hfound : snapshots.findIdx (fun snapshot =>
    !decide (snapshot.serverTick < targetTick)) = index at hindex hnewer
  simp only [Bool.not_eq_true', decide_eq_false_iff_not, not_lt] at hnewer
  dsimp only
  rw [List.getElem?_eq_getElem hindex]
  dsimp only
  split_ifs with htick
  · exact .inl ⟨_, .exact (List.getElem_mem hindex) htick, rfl⟩
  · cases index with
    | zero =>
      have hhead : snapshots.head? = some snapshots[0] := by
        rw [List.head?_eq_getElem?, List.getElem?_eq_getElem hindex]
      exact absurd (holdest _ hhead) (not_lt.mpr hnewer)
    | succ before =>
      have hbefore : before < snapshots.length := Nat.lt_of_succ_lt hindex
      have hlower : before < snapshots.findIdx fun snapshot =>
          !decide (snapshot.serverTick < targetTick) := by
        rw [hfound]
        exact Nat.lt_succ_self before
      have holder := List.not_of_lt_findIdx hlower
      simp only [Bool.not_eq_false', decide_eq_true_eq] at holder
      dsimp only
      rw [List.getElem?_eq_getElem hbefore]
      exact .inr ⟨snapshots[before], snapshots[before + 1],
        ⟨⟨before, List.getElem?_eq_getElem hbefore, List.getElem?_eq_getElem hindex⟩,
          holder, lt_of_le_of_ne hnewer (Ne.symm htick)⟩, rfl⟩

/-- A sampled world is the nearest snapshot, or it is interpolated between the neighbours of
the sampled tick. -/
theorem sample_cases {interpolator : RemoteInterpolator R} {localActor : Option EntityId}
    {scene : SceneSnapshot R} (h : interpolator.sample localActor = .ok scene) :
    ∃ newest, interpolator.snapshots.getLast? = some newest ∧
      let targetTick := interpolator.targetTick newest.serverTick
      ((∃ snapshot, Nearest interpolator.snapshots targetTick snapshot ∧
          scene = excludeLocalActor snapshot.snapshot localActor) ∨
        ∃ older newer, Brackets interpolator.snapshots targetTick older newer ∧
          scene = excludeLocalActor (interpolated older newer targetTick) localActor) := by
  unfold sample at h
  cases hhead : interpolator.snapshots.head? with
  | none => rw [hhead] at h; cases h
  | some oldest =>
    cases hlast : interpolator.snapshots.getLast? with
    | none => rw [hhead, hlast] at h; cases h
    | some newest =>
      rw [hhead, hlast] at h
      cases h
      refine ⟨newest, rfl, ?_⟩
      split_ifs with hfront hback
      · exact .inl ⟨oldest, .oldest hhead hfront, rfl⟩
      · exact .inl ⟨newest, .newest hlast hback, rfl⟩
      · have hcases := between_cases (List.mem_of_getLast? hlast) (not_le.mp hback)
          fun first hfirst => by
            rw [hhead] at hfirst
            cases hfirst
            exact not_le.mp hfront
        obtain ⟨snapshot, hnearest, heq⟩ | ⟨older, newer, hbrackets, heq⟩ := hcases
        · exact .inl ⟨snapshot, hnearest, by rw [heq]⟩
        · exact .inr ⟨older, newer, hbrackets, by rw [heq]⟩

/-- Every actor of a sampled world comes from the snapshots around the sampled tick. -/
theorem sample_sampled {interpolator : RemoteInterpolator R}
    (hsorted : ∀ snapshot ∈ interpolator.snapshots, snapshot.Sorted)
    {localActor : Option EntityId} {scene : SceneSnapshot R}
    (h : interpolator.sample localActor = .ok scene) :
    ∃ newest, interpolator.snapshots.getLast? = some newest ∧
      ∀ actor ∈ scene.actors,
        Sampled interpolator.snapshots (interpolator.targetTick newest.serverTick) actor := by
  obtain ⟨newest, hnewest, hcases⟩ := sample_cases h
  refine ⟨newest, hnewest, fun actor hactor => ?_⟩
  obtain ⟨snapshot, hnearest, rfl⟩ | ⟨older, newer, hbrackets, rfl⟩ := hcases
  · exact .held hnearest (mem_excludeLocalActor hactor)
  · obtain ⟨hnewer, habsent⟩ | ⟨source, hsource, original, horiginal, hid, heq⟩ :=
      interpolated_cases (mem_excludeLocalActor hactor)
    · exact .entered hbrackets hnewer (habsent (hsorted older hbrackets.older_mem))
    · exact .blended hbrackets hsource horiginal hid heq

theorem sample_error {interpolator : RemoteInterpolator R} {localActor : Option EntityId}
    {e : Exception} (h : interpolator.sample localActor = .error e) :
    interpolator.snapshots = [] := by
  cases hsnapshots : interpolator.snapshots with
  | nil => rfl
  | cons oldest later =>
    have hlast := List.getLast?_eq_some_getLast (List.cons_ne_nil oldest later)
    rw [sample, hsnapshots, hlast] at h
    cases h

end Sampling

/-! ## Runs -/

inductive InterpolatorCall (R : Type) where
  | push (snapshot : RemoteSnapshot R)
  | forgetActors (actors : List EntityId)
  | sample (localActor : Option EntityId)

/-- The buffered actor was pushed with its snapshot and has not been forgotten since. -/
def RecordedBy (calls : List (InterpolatorCall R)) (entry : RemoteSnapshot R)
    (actor : SceneActor R) : Prop :=
  ∃ before snapshot since, calls = before ++ .push snapshot :: since ∧
    snapshot.snapshotId = entry.snapshotId ∧ snapshot.serverTick = entry.serverTick ∧
    actor ∈ snapshot.snapshot.actors ∧
    ∀ actors, .forgetActors actors ∈ since → actor.id ∉ actors

theorem RecordedBy.append {calls : List (InterpolatorCall R)} {entry : RemoteSnapshot R}
    {actor : SceneActor R} (h : RecordedBy calls entry actor) {call : InterpolatorCall R}
    (hcall : ∀ actors, call = .forgetActors actors → actor.id ∉ actors) :
    RecordedBy (calls ++ [call]) entry actor := by
  obtain ⟨before, snapshot, since, rfl, hid, htick, hactor, hsince⟩ := h
  refine ⟨before, snapshot, since ++ [call], by simp, hid, htick, hactor, ?_⟩
  intro actors hactors
  obtain hold | hnew := List.mem_append.mp hactors
  · exact hsince actors hold
  · exact hcall actors (List.mem_singleton.mp hnew).symm

/-- The buffer after some calls. -/
structure Buffered (start : RemoteInterpolator R) (calls : List (InterpolatorCall R))
    (interpolator : RemoteInterpolator R) : Prop where
  capacity : interpolator.capacity = start.capacity
  delay : interpolator.interpolationDelayTicks = start.interpolationDelayTicks
  increasing : Increasing interpolator.snapshots
  bounded : interpolator.snapshots.length ≤ interpolator.capacity
  recorded : ∀ entry ∈ interpolator.snapshots, ∀ actor ∈ entry.snapshot.actors,
    RecordedBy calls entry actor

theorem push_keeps (interpolator : RemoteInterpolator R) (snapshot : RemoteSnapshot R) :
    (interpolator.push snapshot).capacity = interpolator.capacity ∧
      (interpolator.push snapshot).interpolationDelayTicks =
        interpolator.interpolationDelayTicks := by
  unfold push
  split <;> exact ⟨rfl, rfl⟩

theorem forgetActors_keeps (interpolator : RemoteInterpolator R) (actors : List EntityId) :
    (interpolator.forgetActors actors).capacity = interpolator.capacity ∧
      (interpolator.forgetActors actors).interpolationDelayTicks =
        interpolator.interpolationDelayTicks := by
  unfold forgetActors
  split <;> exact ⟨rfl, rfl⟩

theorem create_buffered {interpolationDelayTicks : UInt32} {capacity : Nat}
    {interpolator : RemoteInterpolator R}
    (h : create interpolationDelayTicks capacity = .ok interpolator) :
    Buffered interpolator [] interpolator ∧ interpolator.capacity = capacity ∧
      interpolator.snapshots = [] := by
  unfold create at h
  split_ifs at h with hcapacity
  cases h
  refine ⟨⟨rfl, rfl, List.Pairwise.nil, Nat.zero_le _, fun entry hentry => ?_⟩, rfl, rfl⟩
  cases hentry

section Responding

variable [Blendable R]

def respond (interpolator : RemoteInterpolator R) :
    InterpolatorCall R → RemoteInterpolator R × Option (Except Exception (SceneSnapshot R))
  | .push snapshot => (interpolator.push snapshot, none)
  | .forgetActors actors => (interpolator.forgetActors actors, none)
  | .sample localActor => (interpolator, some (interpolator.sample localActor))

theorem buffered_respond {start interpolator : RemoteInterpolator R}
    {calls : List (InterpolatorCall R)} (h : Buffered start calls interpolator)
    (call : InterpolatorCall R) :
    Buffered start (calls ++ [call]) (interpolator.respond call).1 := by
  cases call with
  | push snapshot =>
    obtain ⟨hcapacity, hdelay⟩ := interpolator.push_keeps snapshot
    refine ⟨hcapacity.trans h.capacity, hdelay.trans h.delay,
      push_increasing h.increasing snapshot, ?_, fun entry hentry actor hactor => ?_⟩
    · rw [respond, hcapacity]
      exact push_length h.bounded snapshot
    · obtain hold | rfl := mem_push hentry
      · refine (h.recorded entry hold actor hactor).append fun actors hcall => ?_
        cases hcall
      · refine ⟨calls, entry, [], rfl, rfl, rfl, hactor, fun actors hactors => ?_⟩
        cases hactors
  | forgetActors actors =>
    obtain ⟨hcapacity, hdelay⟩ := interpolator.forgetActors_keeps actors
    refine ⟨hcapacity.trans h.capacity, hdelay.trans h.delay,
      forgetActors_increasing h.increasing actors, ?_, fun entry hentry actor hactor => ?_⟩
    · rw [respond, hcapacity, forgetActors_length]
      exact h.bounded
    · obtain ⟨original, horiginal, rfl⟩ := mem_forgetActors hentry
      obtain ⟨hkept, hforgotten⟩ := mem_forget.mp hactor
      refine (h.recorded original horiginal actor hkept).append fun others hcall => ?_
      cases hcall
      exact hforgotten
  | sample localActor =>
    refine ⟨h.capacity, h.delay, h.increasing, h.bounded, fun entry hentry actor hactor => ?_⟩
    refine (h.recorded entry hentry actor hactor).append fun actors hcall => ?_
    cases hcall

theorem after_buffered {start : RemoteInterpolator R} (h : Buffered start [] start)
    (calls : List (InterpolatorCall R)) :
    Buffered start calls (after respond start calls) :=
  @after_invariant _ _ _ respond (fun calls _ state => Buffered start calls state)
    (fun _ _ _ call hstate => buffered_respond hstate call) [] [] start h calls

/-- Snapshots that are pushed sorted stay sorted. -/
theorem after_sorted {start : RemoteInterpolator R}
    (hstart : ∀ snapshot ∈ start.snapshots, snapshot.Sorted)
    {calls : List (InterpolatorCall R)}
    (hcalls : ∀ snapshot, .push snapshot ∈ calls → snapshot.Sorted) :
    ∀ snapshot ∈ (after respond start calls).snapshots, snapshot.Sorted := by
  induction calls generalizing start with
  | nil => exact hstart
  | cons call calls ih =>
    refine ih ?_ fun snapshot hsnapshot => hcalls snapshot (List.mem_cons_of_mem _ hsnapshot)
    intro entry hentry
    cases call with
    | push snapshot =>
      obtain hold | rfl := mem_push hentry
      · exact hstart entry hold
      · exact hcalls entry List.mem_cons_self
    | forgetActors actors =>
      obtain ⟨original, horiginal, rfl⟩ := mem_forgetActors hentry
      exact (hstart original horiginal).filter _
    | sample localActor => exact hstart entry hentry

end Responding

/-! ## Over exact numbers -/

section Exact

variable {K : Type} [Field K] [LinearOrder K] [IsStrictOrderedRing K]

/-- A position on the segment from one position to another. -/
def OnSegment (source position blended : Vec2 K) : Prop :=
  ∃ weight : K, 0 ≤ weight ∧ weight ≤ 1 ∧
    blended.x = (1 - weight) * source.x + weight * position.x ∧
    blended.z = (1 - weight) * source.z + weight * position.z

theorem alpha_mem {older newer : RemoteSnapshot K} {targetTick : UInt32}
    (holder : older.serverTick < targetTick) (hnewer : targetTick < newer.serverTick) :
    0 ≤ alpha older newer targetTick ∧ alpha older newer targetTick ≤ 1 := by
  have hlow := UInt32.lt_iff_toNat_lt.mp holder
  have hhigh := UInt32.lt_iff_toNat_lt.mp hnewer
  have hpart : (targetTick - older.serverTick).toNat ≤
      (newer.serverTick - older.serverTick).toNat := by
    rw [UInt32.toNat_sub_of_le _ _ holder.le,
      UInt32.toNat_sub_of_le _ _ (holder.trans hnewer).le]
    omega
  have hle : ((targetTick - older.serverTick).toNat : K) ≤
      ((newer.serverTick - older.serverTick).toNat : K) := Nat.cast_le.mpr hpart
  exact ⟨div_nonneg (Nat.cast_nonneg _) (Nat.cast_nonneg _),
    div_le_one_of_le₀ hle (Nat.cast_nonneg _)⟩

omit [IsStrictOrderedRing K] in
theorem blend_onSegment {source position : Vec2 K} {weight : K} (hnonneg : 0 ≤ weight)
    (hle : weight ≤ 1) : OnSegment source position (blend source position weight) := by
  refine ⟨weight, hnonneg, hle, ?_, ?_⟩
  · show source.x + (position.x - source.x) * weight = _
    ring
  · show source.z + (position.z - source.z) * weight = _
    ring

/-- The position of a sampled actor, in terms of the positions of that actor in the
snapshots around the tick: alone in the nearest one or in the newer neighbour, or between
its positions in both neighbours. -/
inductive Positioned (snapshots : List (RemoteSnapshot K)) (targetTick : UInt32)
    (actor : SceneActor K) : Prop
  | held {snapshot : RemoteSnapshot K} (hnearest : Nearest snapshots targetTick snapshot)
      (hactor : actor ∈ snapshot.snapshot.actors)
  | entered {older newer : RemoteSnapshot K}
      (hbrackets : Brackets snapshots targetTick older newer)
      (hactor : actor ∈ newer.snapshot.actors)
      (habsent : ∀ source ∈ older.snapshot.actors, source.id ≠ actor.id)
  | blended {older newer : RemoteSnapshot K} {source original : SceneActor K}
      (hbrackets : Brackets snapshots targetTick older newer)
      (hsource : source ∈ older.snapshot.actors) (hid : source.id = actor.id)
      (horiginal : original ∈ newer.snapshot.actors) (hid' : original.id = actor.id)
      (hposition : OnSegment source.position original.position actor.position)

theorem Sampled.positioned {snapshots : List (RemoteSnapshot K)} {targetTick : UInt32}
    {actor : SceneActor K} (h : Sampled snapshots targetTick actor) :
    Positioned snapshots targetTick actor := by
  cases h with
  | held hnearest hactor => exact .held hnearest hactor
  | entered hbrackets hactor habsent => exact .entered hbrackets hactor habsent
  | blended hbrackets hsource horiginal hid hactor =>
    obtain ⟨hnonneg, hle⟩ := alpha_mem (K := K) hbrackets.older_lt hbrackets.lt_newer
    subst hactor
    exact .blended hbrackets hsource hid horiginal rfl (blend_onSegment hnonneg hle)

/-- After all calls the buffer increases within its capacity and holds only what was pushed
and not forgotten since, and a sampled position lies between positions of the same actor in
the buffered snapshots around the sampled tick. -/
theorem interpolator_sound {interpolationDelayTicks : UInt32} {capacity : Nat}
    {interpolator : RemoteInterpolator K}
    (h : create interpolationDelayTicks capacity = .ok interpolator)
    {calls : List (InterpolatorCall K)}
    (hsorted : ∀ snapshot, .push snapshot ∈ calls → snapshot.Sorted) :
    let final := after respond interpolator calls
    Increasing final.snapshots ∧ final.snapshots.length ≤ capacity ∧
      (∀ entry ∈ final.snapshots, ∀ actor ∈ entry.snapshot.actors,
        RecordedBy calls entry actor) ∧
      ∀ localActor, match final.sample localActor with
        | .error _ => final.snapshots = []
        | .ok scene => ∃ newest, final.snapshots.getLast? = some newest ∧
          ∀ actor ∈ scene.actors,
            Positioned final.snapshots (final.targetTick newest.serverTick) actor := by
  intro final
  obtain ⟨hstart, rfl, hempty⟩ := create_buffered h
  have hbuffered := after_buffered hstart calls
  have hfirst : ∀ snapshot ∈ interpolator.snapshots, snapshot.Sorted := by
    rw [hempty]
    intro snapshot hsnapshot
    cases hsnapshot
  have hfinal := after_sorted hfirst hsorted
  refine ⟨hbuffered.increasing, hbuffered.bounded.trans_eq hbuffered.capacity,
    hbuffered.recorded, fun localActor => ?_⟩
  cases hsample : final.sample localActor with
  | error e => exact sample_error hsample
  | ok scene =>
    obtain ⟨newest, hnewest, hactors⟩ := sample_sampled hfinal hsample
    exact ⟨newest, hnewest, fun actor hactor => (hactors actor hactor).positioned⟩

end Exact

/-! ## A run -/

/-- An actor at a place, in a snapshot of its own. -/
def soloSnapshot (snapshotId serverTick : UInt32) (x : ℚ) : RemoteSnapshot ℚ :=
  ⟨snapshotId, serverTick, { actors := [{ id := ⟨7⟩, position := ⟨x, 0⟩ }] }⟩

def soloCalls : List (InterpolatorCall ℚ) :=
  [.push (soloSnapshot 1 10 0), .push (soloSnapshot 2 14 8), .sample none]

/-- The rule for an actor that walks eight units in four ticks. -/
theorem interpolator_sound_solo :
    ∃ interpolator, create 3 32 = .ok interpolator ∧
      Increasing (after respond interpolator soloCalls).snapshots ∧
      (after respond interpolator soloCalls).snapshots.length ≤ 32 := by
  have hsorted : ∀ snapshot : RemoteSnapshot ℚ, .push snapshot ∈ soloCalls →
      snapshot.Sorted := by
    intro snapshot hsnapshot
    simp only [soloCalls, List.mem_cons, InterpolatorCall.push.injEq, reduceCtorEq,
      List.not_mem_nil, or_false] at hsnapshot
    obtain rfl | rfl := hsnapshot <;> exact List.pairwise_singleton _ _
  have hcreate : create 3 32 = .ok ({} : RemoteInterpolator ℚ) := rfl
  have hsound := interpolator_sound hcreate hsorted
  exact ⟨_, hcreate, hsound.1, hsound.2.1⟩

end RemoteInterpolator

end SurvivalArena
