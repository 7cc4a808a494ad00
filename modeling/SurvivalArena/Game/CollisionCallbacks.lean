import SurvivalArena.Game.CollisionScene

/-!
# Collision callbacks

The callbacks of a frame against those of a test of all pairs: they are the same when the
traversal looks at the pairs that touch or touched before.
-/

namespace SurvivalArena

open Machine QuadTreeNode

/-! ## One pair -/

theorem colliderPair_eq_iff {first second one other : Nat} :
    colliderPair first second = colliderPair one other ↔
      (first = one ∧ second = other) ∨ (first = other ∧ second = one) := by
  unfold colliderPair
  split
  · split
    · rw [Prod.mk.injEq]
      omega
    · rw [Prod.mk.injEq]
      omega
  · split
    · rw [Prod.mk.injEq]
      omega
    · rw [Prod.mk.injEq]
      omega

theorem listed_iff_exists {first second : Nat} {pairs : List (Nat × Nat)} :
    Listed first second pairs ↔
      ∃ pair ∈ pairs, colliderPair first second = colliderPair pair.1 pair.2 := by
  constructor
  · rintro (h | h)
    · exact ⟨(first, second), h, rfl⟩
    · exact ⟨(second, first), h, colliderPair_eq_iff.mpr (.inr ⟨rfl, rfl⟩)⟩
  · rintro ⟨⟨one, other⟩, hmem, heq⟩
    rcases colliderPair_eq_iff.mp heq with ⟨rfl, rfl⟩ | ⟨rfl, rfl⟩
    · exact .inl hmem
    · exact .inr hmem

/-- The callbacks of a pair. -/
def pairCallbacks (before now : Bool) (first second : Nat) : List CollisionCallback :=
  match Edge.between before now with
  | none => []
  | some kind => [⟨kind, first, second⟩, ⟨kind, second, first⟩]

theorem mem_pairCallbacks {before now : Bool} {first second : Nat} {kind : Edge}
    {receiver other : Nat} :
    ⟨kind, receiver, other⟩ ∈ pairCallbacks before now first second ↔
      colliderPair receiver other = colliderPair first second ∧
        Edge.between before now = some kind := by
  unfold pairCallbacks
  rw [colliderPair_eq_iff]
  split
  next hnone => exact iff_of_false (fun h => nomatch h) fun h => nomatch hnone.symm.trans h.2
  next actual hactual =>
    simp only [hactual, List.mem_cons, CollisionCallback.mk.injEq, List.not_mem_nil, or_false,
      Option.some.injEq]
    constructor
    · rintro (⟨rfl, rfl, rfl⟩ | ⟨rfl, rfl, rfl⟩)
      · exact ⟨.inl ⟨rfl, rfl⟩, rfl⟩
      · exact ⟨.inr ⟨rfl, rfl⟩, rfl⟩
    · rintro ⟨⟨rfl, rfl⟩ | ⟨rfl, rfl⟩, rfl⟩
      · exact .inl ⟨rfl, rfl, rfl⟩
      · exact .inr ⟨rfl, rfl, rfl⟩

theorem pairCallbacks_nodup (before now : Bool) {first second : Nat} (hne : first ≠ second) :
    (pairCallbacks before now first second).Nodup := by
  unfold pairCallbacks
  split
  · exact List.nodup_nil
  · rw [List.nodup_cons, List.mem_singleton]
    refine ⟨fun h => ?_, List.nodup_singleton _⟩
    exact hne (CollisionCallback.mk.inj h).2.1

namespace CollisionPass

variable {intersects : Nat → Nat → Bool}

theorem processCollisionPair_new {pass : CollisionPass} {first second : Nat}
    (hnew : colliderPair first second ∉ pass.processedPairs) :
    pass.processCollisionPair intersects (first, second) =
      { collisionMap := Function.update pass.collisionMap (colliderPair first second)
          (some (intersects first second))
        processedPairs := colliderPair first second :: pass.processedPairs
        callbacks := pass.callbacks ++
          pairCallbacks ((pass.collisionMap (colliderPair first second)).getD false)
            (intersects first second) first second } := by
  dsimp only [processCollisionPair]
  rw [if_neg hnew]
  cases hmap : pass.collisionMap (colliderPair first second) with
  | none =>
    cases hmeet : intersects first second with
    | false =>
      simp [setColliding, pairCallbacks, Edge.between]
    | true =>
      simp [setColliding, call, pairCallbacks, Edge.between]
  | some colliding =>
    have hsame : Function.update pass.collisionMap (colliderPair first second) (some colliding) =
        pass.collisionMap := by
      rw [← hmap, Function.update_eq_self]
    cases colliding with
    | false =>
      cases hmeet : intersects first second with
      | false => simp [hmap, hsame, pairCallbacks, Edge.between]
      | true => simp [setColliding, call, hmap, pairCallbacks, Edge.between]
    | true =>
      cases hmeet : intersects first second with
      | false => simp [setColliding, call, hmap, pairCallbacks, Edge.between]
      | true => simp [call, hmap, hsame, pairCallbacks, Edge.between]

theorem processCollisionPair_old {pass : CollisionPass} {first second : Nat}
    (hold : colliderPair first second ∈ pass.processedPairs) :
    pass.processCollisionPair intersects (first, second) = pass := by
  dsimp only [processCollisionPair]
  rw [if_pos hold]

/-! ## One pass -/

/-- What the pass has done after some pairs. -/
structure Processed (intersects : Nat → Nat → Bool) (before : Nat × Nat → Option Bool)
    (visited : List (Nat × Nat)) (pass : CollisionPass) : Prop where
  processed : ∀ first second, colliderPair first second ∈ pass.processedPairs ↔
    Listed first second visited
  seen : ∀ first second, Listed first second visited →
    pass.collisionMap (colliderPair first second) = some (intersects first second)
  unseen : ∀ first second, ¬ Listed first second visited →
    pass.collisionMap (colliderPair first second) = before (colliderPair first second)
  callbacks : ∀ kind receiver other, ⟨kind, receiver, other⟩ ∈ pass.callbacks ↔
    Listed receiver other visited ∧
      Edge.between ((before (colliderPair receiver other)).getD false)
        (intersects receiver other) = some kind
  nodup : pass.callbacks.Nodup

theorem Processed.start (before : Nat × Nat → Option Bool) :
    Processed intersects before [] ⟨before, [], []⟩ where
  processed _ _ := iff_of_false (fun h => nomatch h) fun h => h.elim (nomatch ·) (nomatch ·)
  seen _ _ h := h.elim (nomatch ·) (nomatch ·)
  unseen _ _ _ := rfl
  callbacks _ _ _ := iff_of_false (fun h => nomatch h) fun h => h.1.elim (nomatch ·) (nomatch ·)
  nodup := List.nodup_nil

theorem listed_snoc {first second one other : Nat} {visited : List (Nat × Nat)} :
    Listed first second (visited ++ [(one, other)]) ↔
      Listed first second visited ∨
        colliderPair first second = colliderPair one other := by
  rw [listed_append, @listed_iff_exists first second [(one, other)]]
  simp only [List.mem_singleton, exists_eq_left]

theorem intersects_congr (hcomm : ∀ first second, intersects first second =
    intersects second first) {first second one other : Nat}
    (h : colliderPair first second = colliderPair one other) :
    intersects first second = intersects one other := by
  rcases colliderPair_eq_iff.mp h with ⟨rfl, rfl⟩ | ⟨rfl, rfl⟩
  · rfl
  · exact hcomm _ _

variable {before : Nat × Nat → Option Bool} {visited : List (Nat × Nat)} {pass : CollisionPass}

/-- A pair that has been processed adds nothing. -/
theorem Processed.old (h : Processed intersects before visited pass) {one other : Nat}
    (hold : Listed one other visited) :
    Processed intersects before (visited ++ [(one, other)]) pass := by
  have hsame : ∀ first second, Listed first second (visited ++ [(one, other)]) ↔
      Listed first second visited := by
    intro first second
    rw [listed_snoc]
    constructor
    · rintro (hlisted | heq)
      · exact hlisted
      · rw [listed_iff_exists] at hold ⊢
        rw [heq]
        exact hold
    · exact .inl
  constructor
  · intro first second
    rw [hsame]
    exact h.processed first second
  · intro first second hlisted
    exact h.seen first second ((hsame first second).mp hlisted)
  · intro first second hlisted
    exact h.unseen first second fun hvisited => hlisted ((hsame first second).mpr hvisited)
  · intro kind receiver target
    rw [hsame]
    exact h.callbacks kind receiver target
  · exact h.nodup

theorem Processed.step
    (hcomm : ∀ first second, intersects first second = intersects second first)
    (h : Processed intersects before visited pass) {one other : Nat} (hne : one ≠ other) :
    Processed intersects before (visited ++ [(one, other)])
      (pass.processCollisionPair intersects (one, other)) := by
  by_cases hold : colliderPair one other ∈ pass.processedPairs
  · rw [processCollisionPair_old hold]
    exact h.old ((h.processed one other).mp hold)
  · have hunlisted : ¬ Listed one other visited := fun hlisted =>
      hold ((h.processed one other).mpr hlisted)
    have hmap := h.unseen one other hunlisted
    rw [processCollisionPair_new hold, hmap]
    have hfresh : ∀ first second, Listed first second visited →
        colliderPair first second ≠ colliderPair one other := by
      intro first second hlisted heq
      rw [listed_iff_exists, heq, ← listed_iff_exists] at hlisted
      exact hunlisted hlisted
    constructor
    · intro first second
      rw [listed_snoc, List.mem_cons, h.processed]
      exact or_comm
    · intro first second hlisted
      rcases listed_snoc.mp hlisted with hlisted | heq
      · dsimp only
        rw [Function.update_of_ne (hfresh first second hlisted)]
        exact h.seen first second hlisted
      · dsimp only
        rw [heq, Function.update_self, intersects_congr hcomm heq]
    · intro first second hlisted
      rw [listed_snoc, not_or] at hlisted
      dsimp only
      rw [Function.update_of_ne hlisted.2]
      exact h.unseen first second hlisted.1
    · intro kind receiver target
      rw [List.mem_append, h.callbacks, mem_pairCallbacks, listed_snoc]
      constructor
      · rintro (⟨hlisted, hkind⟩ | ⟨heq, hkind⟩)
        · exact ⟨.inl hlisted, hkind⟩
        · rw [← heq, ← intersects_congr hcomm heq] at hkind
          exact ⟨.inr heq, hkind⟩
      · rintro ⟨hlisted | heq, hkind⟩
        · exact .inl ⟨hlisted, hkind⟩
        · rw [heq, intersects_congr hcomm heq] at hkind
          exact .inr ⟨heq, hkind⟩
    · refine List.nodup_append.mpr ⟨h.nodup, pairCallbacks_nodup _ _ hne, ?_⟩
      rintro ⟨kind, receiver, target⟩ hmem callback hpair rfl
      exact hfresh receiver target ((h.callbacks kind receiver target).mp hmem).1
        (mem_pairCallbacks.mp hpair).1

theorem Processed.run
    (hcomm : ∀ first second, intersects first second = intersects second first)
    {pairs : List (Nat × Nat)} (hpairs : ∀ pair ∈ pairs, pair.1 ≠ pair.2)
    (h : Processed intersects before visited pass) :
    Processed intersects before (visited ++ pairs)
      (pairs.foldl (processCollisionPair intersects) pass) := by
  induction pairs generalizing visited pass with
  | nil =>
    rw [List.append_nil]
    exact h
  | cons pair pairs ih =>
    obtain ⟨one, other⟩ := pair
    have hne : one ≠ other := hpairs (one, other) List.mem_cons_self
    have hlater := ih (fun pair hmem => hpairs pair (List.mem_cons_of_mem _ hmem))
      (h.step hcomm hne)
    rw [List.append_assoc] at hlater
    exact hlater

end CollisionPass

/-! ## The test of all pairs -/

namespace SceneFrame

variable {P : Type}

/-- The object is in the scene, active and has a collider. -/
def live (frame : SceneFrame P) (id : Nat) : Bool :=
  frame.objects.any fun object => object.id = id && object.hasCollider && object.active

def touching (frame : SceneFrame P) (first second : Nat) : Bool :=
  frame.live first && frame.live second && frame.intersects first second

end SceneFrame

/-- The callbacks of a test of all pairs: each of the two objects of a pair is called once
with what has become of their touching since the frame before. -/
structure BruteForce (before now : Nat → Nat → Bool) (callbacks : List CollisionCallback) :
    Prop where
  nodup : callbacks.Nodup
  mem_iff : ∀ kind receiver other, ⟨kind, receiver, other⟩ ∈ callbacks ↔
    receiver ≠ other ∧ Edge.between (before receiver other) (now receiver other) = some kind

namespace CollisionScene

variable {P K : Type} [Field K] [LinearOrder K] (distance : P → P → K)

/-! ## The tree of a frame -/

theorem buildTree_tidy (bounds : Rect) (frame : SceneFrame P) :
    (buildTree bounds frame).Tidy := by
  unfold buildTree
  have hfold : ∀ (screenBounds : Nat → Rect) (objects : List (SceneObject P))
      (node : QuadTreeNode), node.Tidy → (objects.foldl (fun node object =>
        node.insertIntoNode screenBounds MAX_DEPTH object.id) node).Tidy := by
    intro screenBounds objects
    induction objects with
    | nil => exact fun _ h => h
    | cons object objects ih =>
      exact fun node h => ih _ (insertIntoNode_tidy MAX_DEPTH node object.id h)
  exact hfold _ _ _ List.nodup_nil

theorem recordObjects_keeps (frame : SceneFrame P) (scene : CollisionScene P) :
    (scene.recordObjects frame).root = scene.root ∧
      (scene.recordObjects frame).mapColInfo = scene.mapColInfo := by
  unfold recordObjects
  generalize frame.objects.filter (·.hasCollider) = objects
  induction objects generalizing scene with
  | nil => exact ⟨rfl, rfl⟩
  | cons object objects ih => exact ih _

/-- The upkeep leaves the pairs that collided as they are and the tree tidy. -/
theorem updateQuadTree_keeps (scene : CollisionScene P) (frame : SceneFrame P) :
    (scene.updateQuadTree distance frame).mapColInfo = scene.mapColInfo ∧
      (scene.root.Tidy → (scene.updateQuadTree distance frame).root.Tidy) := by
  have hrebuild : ∀ noted : CollisionScene P, noted.mapColInfo = scene.mapColInfo →
      noted.root = scene.root →
      (if noted.quadTreeDirty then
          { noted with root := buildTree noted.root.bounds frame, quadTreeDirty := false }
        else noted).mapColInfo = scene.mapColInfo ∧
      (scene.root.Tidy → (if noted.quadTreeDirty then
          { noted with root := buildTree noted.root.bounds frame, quadTreeDirty := false }
        else noted).root.Tidy) := by
    intro noted hmap hroot
    split
    · exact ⟨hmap, fun _ => buildTree_tidy _ _⟩
    · exact ⟨hmap, fun htidy => hroot ▸ htidy⟩
  unfold updateQuadTree
  dsimp only
  split
  · obtain ⟨hroot, hmap⟩ := recordObjects_keeps frame { scene with
      quadTreeDirty := true
      lastCameraPosition := frame.cameraPosition
      lastCameraRotation := frame.cameraRotation
      lastObjectCount := frame.objects.length }
    exact hrebuild _ hmap hroot
  · exact hrebuild scene rfl rfl

/-! ## A frame -/

/-- What the check of a frame does to the pairs and calls. -/
theorem checkCollision_processed {scene : CollisionScene P} (htidy : scene.root.Tidy)
    (frame : SceneFrame P) :
    ∃ pass, CollisionPass.Processed frame.intersects scene.mapColInfo
        scene.root.collisionPairs pass ∧
      scene.checkCollisionWithQuadTree frame =
        ({ scene with mapColInfo := pass.collisionMap }, pass.callbacks) := by
  have hpairs : ∀ pair ∈ scene.root.collisionPairs, pair.1 ≠ pair.2 :=
    fun pair hmem => collisionPairs_ne htidy hmem
  have hstart : CollisionPass.Processed frame.intersects scene.mapColInfo []
      ⟨scene.mapColInfo, [], []⟩ := .start scene.mapColInfo
  have hrun := hstart.run frame.intersects_comm hpairs
  rw [List.nil_append] at hrun
  exact ⟨_, hrun, rfl⟩

/-- A scene and the pairs that touched in its last frame. -/
abbrev Watch (P : Type) := CollisionScene P × (Nat → Nat → Bool)

def watchFrame (watch : Watch P) (frame : SceneFrame P) : Watch P :=
  ((watch.1.update distance frame).1, frame.touching)

/-- The traversal sees the pairs that touch or touched in the frame before, and what the tree
holds and meets another is still in the scene. -/
structure Watched (watch : Watch P) (frame : SceneFrame P) : Prop where
  sees : ∀ first second, first ≠ second →
    watch.2 first second = true ∨ frame.touching first second = true →
    (watch.1.updateQuadTree distance frame).root.Sees first second
  live : ∀ first second, first ≠ second →
    (watch.1.updateQuadTree distance frame).root.Sees first second →
    frame.intersects first second = true → frame.live first = true ∧ frame.live second = true

/-- The pairs that the scene remembers are those that touched. -/
structure Remembers (watch : Watch P) : Prop where
  tidy : watch.1.root.Tidy
  colliding : ∀ first second, first ≠ second →
    (watch.1.mapColInfo (colliderPair first second)).getD false = watch.2 first second

/-- The callbacks of a frame and the pairs that it remembers. -/
structure FrameCalls (watch : Watch P) (frame : SceneFrame P) : Prop where
  tidy : (watch.1.update distance frame).1.root.Tidy
  nodup : (watch.1.update distance frame).2.Nodup
  mem_iff : ∀ kind receiver other,
    ⟨kind, receiver, other⟩ ∈ (watch.1.update distance frame).2 ↔
      receiver ≠ other ∧ (watch.1.updateQuadTree distance frame).root.Sees receiver other ∧
        Edge.between (watch.2 receiver other) (frame.intersects receiver other) = some kind
  seen : ∀ first second, first ≠ second →
    (watch.1.updateQuadTree distance frame).root.Sees first second →
    (watch.1.update distance frame).1.mapColInfo (colliderPair first second) =
      some (frame.intersects first second)
  unseen : ∀ first second, first ≠ second →
    ¬ (watch.1.updateQuadTree distance frame).root.Sees first second →
    ((watch.1.update distance frame).1.mapColInfo (colliderPair first second)).getD false =
      watch.2 first second

theorem frameCalls {watch : Watch P} (hremembers : Remembers watch) (frame : SceneFrame P) :
    FrameCalls distance watch frame := by
  obtain ⟨hmap, hkept⟩ := updateQuadTree_keeps distance watch.1 frame
  have htidy := hkept hremembers.tidy
  obtain ⟨pass, hpass, hcheck⟩ := checkCollision_processed htidy frame
  have hupdate : watch.1.update distance frame =
      ({ watch.1.updateQuadTree distance frame with mapColInfo := pass.collisionMap },
        pass.callbacks) := hcheck
  have hlisted : ∀ first second,
      Listed first second (watch.1.updateQuadTree distance frame).root.collisionPairs →
        first ≠ second := by
    rintro first second (hmem | hmem)
    · exact collisionPairs_ne htidy hmem
    · exact (collisionPairs_ne htidy hmem).symm
  have hbefore : ∀ first second, first ≠ second →
      ((watch.1.updateQuadTree distance frame).mapColInfo
        (colliderPair first second)).getD false = watch.2 first second := by
    intro first second hne
    rw [hmap]
    exact hremembers.colliding first second hne
  constructor
  · rw [hupdate]
    exact htidy
  · rw [hupdate]
    exact hpass.nodup
  · intro kind receiver other
    rw [hupdate, hpass.callbacks]
    constructor
    · rintro ⟨hmem, hkind⟩
      have hne := hlisted receiver other hmem
      rw [hbefore receiver other hne] at hkind
      exact ⟨hne, (listed_collisionPairs hne _).mp hmem, hkind⟩
    · rintro ⟨hne, hsees, hkind⟩
      rw [hbefore receiver other hne]
      exact ⟨(listed_collisionPairs hne _).mpr hsees, hkind⟩
  · intro first second hne hsees
    rw [hupdate]
    exact hpass.seen first second ((listed_collisionPairs hne _).mpr hsees)
  · intro first second hne hsees
    have hunseen := hpass.unseen first second fun hmem =>
      hsees ((listed_collisionPairs hne _).mp hmem)
    rw [hupdate]
    dsimp only
    rw [hunseen]
    exact hbefore first second hne

section Frame

variable {distance} {watch : Watch P} {frame : SceneFrame P}

/-- Where the pairs are watched, two objects that the tree sees meet when they touch. -/
theorem Watched.intersects_eq (h : Watched distance watch frame) {first second : Nat}
    (hne : first ≠ second)
    (hsees : (watch.1.updateQuadTree distance frame).root.Sees first second) :
    frame.intersects first second = frame.touching first second := by
  unfold SceneFrame.touching
  cases hmeet : frame.intersects first second with
  | false => rw [Bool.and_false]
  | true =>
    obtain ⟨hfirst, hsecond⟩ := h.live first second hne hsees hmeet
    rw [hfirst, hsecond]
    rfl

theorem Watched.bruteForce (hremembers : Remembers watch)
    (h : Watched distance watch frame) :
    BruteForce watch.2 frame.touching (watch.1.update distance frame).2 := by
  have hcalls := frameCalls distance hremembers frame
  refine ⟨hcalls.nodup, fun kind receiver other => ?_⟩
  rw [hcalls.mem_iff]
  constructor
  · rintro ⟨hne, hsees, hkind⟩
    rw [h.intersects_eq hne hsees] at hkind
    exact ⟨hne, hkind⟩
  · rintro ⟨hne, hkind⟩
    have hsees : (watch.1.updateQuadTree distance frame).root.Sees receiver other := by
      apply h.sees receiver other hne
      by_contra hnone
      rw [not_or, Bool.not_eq_true, Bool.not_eq_true] at hnone
      exact nomatch ((Edge.between_eq_none _ _).mpr hnone).symm.trans hkind
    rw [h.intersects_eq hne hsees]
    exact ⟨hne, hsees, hkind⟩

/-- What is not watched is called otherwise than by the test of all pairs. -/
theorem BruteForce.watched (hremembers : Remembers watch)
    (h : BruteForce watch.2 frame.touching (watch.1.update distance frame).2) :
    Watched distance watch frame := by
  have hcalls := frameCalls distance hremembers frame
  constructor
  · intro first second hne htouch
    cases hkind : Edge.between (watch.2 first second) (frame.touching first second) with
    | none =>
      obtain ⟨hbefore, hnow⟩ := (Edge.between_eq_none _ _).mp hkind
      rw [hbefore, hnow] at htouch
      exact htouch.elim (nomatch ·) (nomatch ·)
    | some kind =>
      have hmem := (h.mem_iff kind first second).mpr ⟨hne, hkind⟩
      exact ((hcalls.mem_iff kind first second).mp hmem).2.1
  · intro first second hne hsees hmeet
    have htouch : frame.touching first second = true := by
      cases hkind : Edge.between (watch.2 first second) (frame.intersects first second) with
      | none => exact nomatch hmeet.symm.trans ((Edge.between_eq_none _ _).mp hkind).2
      | some kind =>
        have hmem := (hcalls.mem_iff kind first second).mpr ⟨hne, hsees, hkind⟩
        have hsame := ((h.mem_iff kind first second).mp hmem).2
        exact (Edge.between_injective _ _ _ (hsame.trans hkind.symm)).trans hmeet
    unfold SceneFrame.touching at htouch
    rw [Bool.and_eq_true, Bool.and_eq_true] at htouch
    exact htouch.1

theorem Watched.remembers (hremembers : Remembers watch)
    (h : Watched distance watch frame) : Remembers (watchFrame distance watch frame) := by
  have hcalls := frameCalls distance hremembers frame
  refine ⟨hcalls.tidy, fun first second hne => ?_⟩
  show ((watch.1.update distance frame).1.mapColInfo (colliderPair first second)).getD false =
    frame.touching first second
  by_cases hsees : (watch.1.updateQuadTree distance frame).root.Sees first second
  · rw [hcalls.seen first second hne hsees, h.intersects_eq hne hsees]
    rfl
  · have hapart : ¬ (watch.2 first second = true ∨ frame.touching first second = true) :=
      fun htouch => hsees (h.sees first second hne htouch)
    rw [not_or, Bool.not_eq_true, Bool.not_eq_true] at hapart
    rw [hcalls.unseen first second hne hsees, hapart.1, hapart.2]

end Frame

/-! ## Runs -/

/-- What the callbacks of a frame tell one object of another. -/
def contact (receiver other : Nat) (callbacks : List CollisionCallback) : Option Edge :=
  (callbacks.find? fun callback =>
    callback.receiver = receiver && callback.other = other).map (·.kind)

theorem BruteForce.contact {before now : Nat → Nat → Bool} {callbacks : List CollisionCallback}
    (h : BruteForce before now callbacks) {receiver other : Nat} (hne : receiver ≠ other) :
    contact receiver other callbacks =
      Edge.between (before receiver other) (now receiver other) := by
  unfold CollisionScene.contact
  cases hfind : callbacks.find? fun callback =>
      callback.receiver = receiver && callback.other = other with
  | none =>
    cases hkind : Edge.between (before receiver other) (now receiver other) with
    | none => rfl
    | some kind =>
      have hmem := (h.mem_iff kind receiver other).mpr ⟨hne, hkind⟩
      have hmiss := List.find?_eq_none.mp hfind _ hmem
      simp only [decide_true, Bool.and_self, not_true_eq_false] at hmiss
  | some callback =>
    obtain ⟨kind, one, target⟩ := callback
    have hfound := List.find?_some hfind
    have hmem := List.mem_of_find?_eq_some hfind
    simp only [Bool.and_eq_true, decide_eq_true_eq] at hfound
    obtain ⟨rfl, rfl⟩ := hfound
    exact ((h.mem_iff kind one target).mp hmem).2.symm

theorem start_remembers (scene : CollisionScene P) (bounds : Rect) (frame : SceneFrame P) :
    Remembers (scene.start distance bounds frame, fun _ _ => false) := by
  obtain ⟨hmap, htidy⟩ := updateQuadTree_keeps distance { scene with
    root := .leaf bounds []
    quadTreeDirty := true
    mapColInfo := fun _ => none } frame
  refine ⟨htidy List.nodup_nil, fun first second _ => ?_⟩
  show ((scene.start distance bounds frame).mapColInfo (colliderPair first second)).getD false =
    false
  unfold start
  rw [hmap]
  rfl

/-- What an object is told of another, frame by frame. -/
theorem contacts_eq {watch : Watch P} (hremembers : Remembers watch)
    {frames : List (SceneFrame P)}
    (hframes : Meets (watchFrame distance) (Watched distance) watch frames)
    {receiver other : Nat} (hne : receiver ≠ other) :
    (replies (update distance) watch.1 frames).map (contact receiver other) =
      Edge.edges (watch.2 receiver other)
        (frames.map fun frame => frame.touching receiver other) := by
  induction frames generalizing watch with
  | nil => rfl
  | cons frame frames ih =>
    obtain ⟨hwatched, hlater⟩ := hframes
    have hframe := BruteForce.contact (hwatched.bruteForce hremembers) hne
    have hrest := ih (hwatched.remembers hremembers) hlater
    rw [replies, List.map_cons, List.map_cons, Edge.edges, hframe]
    exact congrArg _ hrest

def someObject (id : Nat) (active : Bool) : SceneObject ℚ where
  id := id
  hasCollider := true
  active := active
  position := 0
  visible := true
  screenBounds := ⟨100, 100, 200, 200⟩

/-- Two objects of which the second may be switched off or apart from the first. -/
def someFrame (active together : Bool) : SceneFrame ℚ where
  objects := [someObject 0 true, someObject 1 active]
  cameraPosition := 0
  cameraRotation := 0
  intersects _ _ := together
  intersects_comm _ _ := rfl

def someScene : CollisionScene ℚ where
  root := .leaf ⟨0, 0, 1920, 1080⟩ []
  quadTreeDirty := true
  lastCameraPosition := 0
  lastCameraRotation := 0
  lastObjectCount := 0
  lastObjectPositions := fun _ => none
  lastObjectActives := fun _ => none
  mapColInfo := fun _ => none

def lineDistance (first second : ℚ) : ℚ := max (first - second) (second - first)

def startedScene : CollisionScene ℚ :=
  someScene.start lineDistance ⟨0, 0, 1920, 1080⟩ (someFrame true true)

/-- The frames in which the second object touches the first, is switched off and is back. -/
def switchedFrames : List (SceneFrame ℚ) :=
  [someFrame true true, someFrame false true, someFrame true true]

example : (replies (update lineDistance) startedScene
    [someFrame true true, someFrame true false, someFrame true true]).map (contact 0 1) =
      [some .enter, some .exit, some .enter] := by
  decide +kernel

end CollisionScene

end SurvivalArena
