import SurvivalArena.Game.CollisionCallbacks

/-!
# The broad phase misses no pair

A node that is split hands an object to every child that it shares a pixel with and keeps
the others.  Two objects that share a pixel of the node therefore share one of a child, or
one of them stays with the node.
-/

namespace SurvivalArena

/-! ## Pixels -/

/-- The pixel is one of the rectangle. -/
structure Rect.Has (rect : Rect) (x y : Int) : Prop where
  left : rect.left ≤ x
  right : x < rect.right
  top : rect.top ≤ y
  bottom : y < rect.bottom

/-- Two rectangles share a pixel of a third. -/
def SharePixel (first second area : Rect) : Prop :=
  ∃ x y, first.Has x y ∧ second.Has x y ∧ area.Has x y

theorem intersectRect_iff {first second : Rect} :
    intersectRect first second = true ↔ ∃ x y, first.Has x y ∧ second.Has x y := by
  simp only [intersectRect, Bool.and_eq_true, decide_eq_true_eq]
  constructor
  · intro hwide
    refine ⟨max first.left second.left, max first.top second.top, ?_, ?_⟩
    · constructor <;> omega
    · constructor <;> omega
  · intro hshared
    obtain ⟨x, y, hfirst, hsecond⟩ := hshared
    cases hfirst
    cases hsecond
    omega

/-- A rectangle with a pixel before two lines has every one of its pixels moved before
them. -/
theorem Rect.Has.moveBefore {rect : Rect} {x y x1 y1 right bottom : Int} (h : rect.Has x y)
    (h1 : rect.Has x1 y1) (hx : x1 < right) (hy : y1 < bottom) :
    rect.Has (min x (right - 1)) (min y (bottom - 1)) := by
  cases h
  cases h1
  constructor <;> omega

namespace QuadTreeNode

/-- The part of a node that its children cover: an odd side leaves a strip. -/
def covered (bounds : Rect) : Rect :=
  ⟨bounds.left, bounds.top, bounds.left + (bounds.right - bounds.left).tdiv 2 * 2,
    bounds.top + (bounds.bottom - bounds.top).tdiv 2 * 2⟩

theorem childBounds_within {bounds : Rect} (hwidth : 0 ≤ (bounds.right - bounds.left).tdiv 2)
    (hheight : 0 ≤ (bounds.bottom - bounds.top).tdiv 2) (child : Fin 4) :
    (covered bounds).left ≤ (childBounds bounds child).left ∧
      (childBounds bounds child).right ≤ (covered bounds).right ∧
      (covered bounds).top ≤ (childBounds bounds child).top ∧
      (childBounds bounds child).bottom ≤ (covered bounds).bottom := by
  match child with
  | 0 | 1 | 2 | 3 =>
    simp only [childBounds, covered]
    omega

theorem childBounds_has {bounds : Rect} {child : Fin 4} {x y : Int}
    (hnonneg : bounds.left ≤ bounds.right ∧ bounds.top ≤ bounds.bottom)
    (hchild : (childBounds bounds child).Has x y) : (covered bounds).Has x y := by
  have hwidth := Int.tdiv_nonneg (b := 2) (sub_nonneg.mpr hnonneg.1) (by decide)
  have hheight := Int.tdiv_nonneg (b := 2) (sub_nonneg.mpr hnonneg.2) (by decide)
  have hwithin := childBounds_within hwidth hheight child
  obtain ⟨hleft, hright, htop, hbottom⟩ := hchild
  constructor <;> omega

/-- The children cover their part of the node without a gap. -/
theorem covered_has {bounds : Rect} {x y : Int} (hcovered : (covered bounds).Has x y) :
    ∃ child, (childBounds bounds child).Has x y := by
  obtain ⟨hleft, hright, htop, hbottom⟩ := hcovered
  simp only [covered] at hleft hright htop hbottom
  by_cases hx : x < bounds.left + (bounds.right - bounds.left).tdiv 2 <;>
    by_cases hy : y < bounds.top + (bounds.bottom - bounds.top).tdiv 2
  · exact ⟨0, by constructor <;> simp only [childBounds] <;> omega⟩
  · exact ⟨2, by constructor <;> simp only [childBounds] <;> omega⟩
  · exact ⟨1, by constructor <;> simp only [childBounds] <;> omega⟩
  · exact ⟨3, by constructor <;> simp only [childBounds] <;> omega⟩

/-- Two rectangles that share a pixel of a node and both reach its children share a pixel of
a child: where they meet in a strip, they also meet beside it. -/
theorem sharePixel_child {first second bounds : Rect} (hshare : SharePixel first second bounds)
    {one other : Fin 4} (hone : intersectRect first (childBounds bounds one) = true)
    (hother : intersectRect second (childBounds bounds other) = true) :
    ∃ child, SharePixel first second (childBounds bounds child) := by
  obtain ⟨x, y, hfirst, hsecond, hbounds⟩ := hshare
  have hnonneg : bounds.left ≤ bounds.right ∧ bounds.top ≤ bounds.bottom :=
    ⟨(hbounds.left.trans_lt hbounds.right).le, (hbounds.top.trans_lt hbounds.bottom).le⟩
  obtain ⟨x1, y1, hfirst1, hone1⟩ := intersectRect_iff.mp hone
  obtain ⟨x2, y2, hsecond2, hother2⟩ := intersectRect_iff.mp hother
  have hcovered1 := childBounds_has hnonneg hone1
  have hcovered2 := childBounds_has hnonneg hother2
  have hfirst' := hfirst.moveBefore hfirst1 hcovered1.right hcovered1.bottom
  have hsecond' := hsecond.moveBefore hsecond2 hcovered2.right hcovered2.bottom
  have hcovered' : (covered bounds).Has (min x ((covered bounds).right - 1))
      (min y ((covered bounds).bottom - 1)) := by
    have hleft : (covered bounds).left = bounds.left := rfl
    have htop : (covered bounds).top = bounds.top := rfl
    cases hbounds
    cases hcovered1
    constructor <;> omega
  obtain ⟨child, hchild⟩ := covered_has hcovered'
  exact ⟨child, _, _, hfirst', hsecond', hchild⟩

/-! ## Where insertion leaves the objects -/

variable {screenBounds : Nat → Rect}

/-- A tree of so many levels below its root, with the bounds that a split gives. -/
def Shaped (room : Nat) : QuadTreeNode → Prop
  | leaf _ _ => True
  | branch bounds _ children => ∃ below, room = below + 1 ∧
    ∀ child, (children child).bounds = childBounds bounds child ∧ (children child).Shaped below

/-- The object is in every leaf that it shares a pixel with, or in the last node on the way
there whose children it does not reach. -/
def Keeps (screenBounds : Nat → Rect) (object : Nat) : QuadTreeNode → Prop
  | leaf _ objects => object ∈ objects
  | branch bounds objects children =>
    if ∃ child, intersectRect (screenBounds object) (childBounds bounds child) = true then
      ∀ child, intersectRect (screenBounds object) (childBounds bounds child) = true →
        (children child).Keeps screenBounds object
    else object ∈ objects

theorem mem_pushNew {objects : List Nat} {object other : Nat} :
    other ∈ pushNew objects object ↔ other ∈ objects ∨ other = object := by
  unfold pushNew
  split
  next hold =>
    constructor
    · exact .inl
    · intro hmem
      rcases hmem with hmem | rfl
      · exact hmem
      · exact hold
  next => simp

/-- What the insertion of an object has to do. -/
structure Inserts (screenBounds : Nat → Rect) (room : Nat) (node after : QuadTreeNode)
    (object : Nat) : Prop where
  bounds : after.bounds = node.bounds
  shaped : after.Shaped room
  keeps : after.Keeps screenBounds object
  others : ∀ other, node.Keeps screenBounds other → after.Keeps screenBounds other

/-- The insertions of some objects, one after the other. -/
theorem foldl_inserts {room : Nat} {insert : QuadTreeNode → Nat → QuadTreeNode}
    (hinsert : ∀ node object, node.Shaped room →
      Inserts screenBounds room node (insert node object) object)
    (objects : List Nat) {node : QuadTreeNode} (hshaped : node.Shaped room) :
    (objects.foldl insert node).bounds = node.bounds ∧
      (objects.foldl insert node).Shaped room ∧
      (∀ object ∈ objects, (objects.foldl insert node).Keeps screenBounds object) ∧
      ∀ other, node.Keeps screenBounds other →
        (objects.foldl insert node).Keeps screenBounds other := by
  induction objects generalizing node with
  | nil => exact ⟨rfl, hshaped, fun _ hmem => absurd hmem List.not_mem_nil, fun _ h => h⟩
  | cons object objects ih =>
    have hfirst := hinsert node object hshaped
    obtain ⟨hbounds, hafter, hkeeps, hothers⟩ := ih hfirst.shaped
    refine ⟨hbounds.trans hfirst.bounds, hafter, ?_, ?_⟩
    · intro other hmem
      rcases List.mem_cons.mp hmem with rfl | hmem
      · exact hothers _ hfirst.keeps
      · exact hkeeps other hmem
    · intro other hother
      exact hothers other (hfirst.others other hother)

/-- A split loses no object. -/
theorem split_keeps {room : Nat} {insert : QuadTreeNode → Nat → QuadTreeNode}
    (hinsert : ∀ node object, node.Shaped room →
      Inserts screenBounds room node (insert node object) object)
    (bounds : Rect) (objects : List Nat) :
    (split screenBounds insert bounds objects).Shaped (room + 1) ∧
      ∀ object ∈ objects,
        (split screenBounds insert bounds objects).Keeps screenBounds object := by
  have hchild := fun child => foldl_inserts hinsert
    (objects.filter fun object => intersectRect (screenBounds object) (childBounds bounds child))
    (show (leaf (childBounds bounds child) []).Shaped room from trivial)
  constructor
  · refine ⟨room, rfl, ?_⟩
    intro child
    obtain ⟨hbounds, hshaped, -, -⟩ := hchild child
    exact ⟨hbounds, hshaped⟩
  · intro object hmem
    unfold split Keeps
    split
    next hreaches =>
      intro child hintersects
      obtain ⟨-, -, hkeeps, -⟩ := hchild child
      exact hkeeps object (List.mem_filter.mpr ⟨hmem, hintersects⟩)
    next hmisses =>
      have hnone : ∀ child, intersectRect (screenBounds object) (childBounds bounds child) =
          false := by
        intro child
        exact Bool.eq_false_iff.mpr fun hreaches => hmisses ⟨child, hreaches⟩
      simp [hmem, hnone]

theorem insertIntoNode_inserts (room : Nat) (node : QuadTreeNode) (object : Nat)
    (hshaped : node.Shaped room) :
    Inserts screenBounds room node (insertIntoNode screenBounds room node object) object := by
  induction room generalizing node object with
  | zero =>
    cases node with
    | leaf bounds objects =>
      refine ⟨rfl, trivial, mem_pushNew.mpr (.inr rfl), ?_⟩
      intro other hother
      exact mem_pushNew.mpr (.inl hother)
    | branch bounds objects children =>
      obtain ⟨below, hroom, -⟩ := hshaped
      exact absurd hroom (Nat.succ_ne_zero below).symm
  | succ room ih =>
    cases node with
    | leaf bounds objects =>
      have hobject : object ∈ pushNew objects object := mem_pushNew.mpr (.inr rfl)
      have hothers : ∀ other ∈ objects, other ∈ pushNew objects object := by
        intro other hother
        exact mem_pushNew.mpr (.inl hother)
      simp only [insertIntoNode]
      split
      next hfull =>
        obtain ⟨hsplit, hkeeps⟩ := split_keeps ih bounds (pushNew objects object)
        refine ⟨rfl, hsplit, hkeeps object hobject, ?_⟩
        intro other hother
        exact hkeeps other (hothers other hother)
      next => exact ⟨rfl, trivial, hobject, hothers⟩
    | branch bounds objects children =>
      obtain ⟨below, hroom, hchildren⟩ := hshaped
      obtain rfl : room = below := Nat.succ.inj hroom
      have hbounds : ∀ child, (children child).bounds = childBounds bounds child :=
        fun child => (hchildren child).1
      have hchild := fun child => ih (children child) object (hchildren child).2
      simp only [insertIntoNode, hbounds]
      split
      next hany =>
        have hreaches : ∃ child,
            intersectRect (screenBounds object) (childBounds bounds child) = true := by
          simpa using hany
        refine ⟨rfl, ⟨room, rfl, ?_⟩, ?_, ?_⟩
        · intro child
          simp only
          split
          · exact ⟨(hchild child).bounds.trans (hbounds child), (hchild child).shaped⟩
          · exact hchildren child
        · simp only [Keeps, if_pos hreaches]
          intro child hintersects
          rw [if_pos hintersects]
          exact (hchild child).keeps
        · intro other hother
          simp only [Keeps] at hother ⊢
          by_cases hother' : ∃ child,
              intersectRect (screenBounds other) (childBounds bounds child) = true
          · rw [if_pos hother'] at hother ⊢
            intro child hintersects
            split
            · exact (hchild child).others other (hother child hintersects)
            · exact hother child hintersects
          · rw [if_neg hother'] at hother ⊢
            exact hother
      next hmisses =>
        have hnone : ¬ ∃ child,
            intersectRect (screenBounds object) (childBounds bounds child) = true := by
          simpa using hmisses
        refine ⟨rfl, ⟨room, rfl, hchildren⟩, ?_, ?_⟩
        · simp only [Keeps, if_neg hnone]
          exact mem_pushNew.mpr (.inr rfl)
        · intro other hother
          simp only [Keeps] at hother ⊢
          split
          next hreaches => simpa only [if_pos hreaches] using hother
          next hmissed =>
            rw [if_neg hmissed] at hother
            exact mem_pushNew.mpr (.inl hother)

/-! ## What the traversal looks at -/

theorem Keeps.mem {object : Nat} {node : QuadTreeNode} (hkeeps : node.Keeps screenBounds object) :
    object ∈ node.allObjects := by
  induction node with
  | leaf bounds objects => exact hkeeps
  | branch bounds objects children ih =>
    rw [allObjects, List.mem_append, mem_flatten_ofFn]
    unfold Keeps at hkeeps
    split at hkeeps
    next hreaches =>
      obtain ⟨child, hintersects⟩ := hreaches
      exact .inr ⟨child, ih child (hkeeps child hintersects)⟩
    next => exact .inl hkeeps

/-- The traversal looks at every two objects that share a pixel of the tree. -/
theorem sees_of_sharePixel {first second room : Nat} {node : QuadTreeNode}
    (hshaped : node.Shaped room) (hfirst : node.Keeps screenBounds first)
    (hsecond : node.Keeps screenBounds second)
    (hshare : SharePixel (screenBounds first) (screenBounds second) node.bounds) :
    node.Sees first second := by
  induction node generalizing room with
  | leaf bounds objects => exact ⟨hfirst, hsecond⟩
  | branch bounds objects children ih =>
    obtain ⟨below, -, hchildren⟩ := hshaped
    have hin : ∀ object, (branch bounds objects children).Keeps screenBounds object →
        object ∈ objects ∨ ∃ child, object ∈ (children child).allObjects := by
      intro object hkeeps
      have hmem := hkeeps.mem
      rwa [allObjects, List.mem_append, mem_flatten_ofFn] at hmem
    by_cases hfirst' : ∃ child,
        intersectRect (screenBounds first) (childBounds bounds child) = true
    · by_cases hsecond' : ∃ child,
          intersectRect (screenBounds second) (childBounds bounds child) = true
      · obtain ⟨one, hone⟩ := hfirst'
        obtain ⟨other, hother⟩ := hsecond'
        obtain ⟨child, x, y, hx, hy, hbounds⟩ := sharePixel_child hshare hone hother
        have hfirstChild : (children child).Keeps screenBounds first := by
          rw [Keeps, if_pos ⟨one, hone⟩] at hfirst
          exact hfirst child (intersectRect_iff.mpr ⟨x, y, hx, hbounds⟩)
        have hsecondChild : (children child).Keeps screenBounds second := by
          rw [Keeps, if_pos ⟨other, hother⟩] at hsecond
          exact hsecond child (intersectRect_iff.mpr ⟨x, y, hy, hbounds⟩)
        have hshareChild : SharePixel (screenBounds first) (screenBounds second)
            (children child).bounds := by
          rw [(hchildren child).1]
          exact ⟨x, y, hx, hy, hbounds⟩
        exact .inr (.inr (.inr (.inl
          ⟨child, ih child (hchildren child).2 hfirstChild hsecondChild hshareChild⟩)))
      · -- the second object stays with the node
        have hkept : second ∈ objects := by rwa [Keeps, if_neg hsecond'] at hsecond
        rcases hin first hfirst with hmem | hbelow
        · exact .inl ⟨hmem, hkept⟩
        · exact .inr (.inr (.inl ⟨hkept, hbelow⟩))
    · have hkept : first ∈ objects := by rwa [Keeps, if_neg hfirst'] at hfirst
      rcases hin second hsecond with hmem | hbelow
      · exact .inl ⟨hkept, hmem⟩
      · exact .inr (.inl ⟨hkept, hbelow⟩)

/-- The tree of some objects, inserted in their order. -/
def insertAll (screenBounds : Nat → Rect) (bounds : Rect) (objects : List Nat) : QuadTreeNode :=
  objects.foldl (insertIntoNode screenBounds MAX_DEPTH) (leaf bounds [])

theorem insertAll_keeps (screenBounds : Nat → Rect) (bounds : Rect) (objects : List Nat) :
    (insertAll screenBounds bounds objects).bounds = bounds ∧
      (insertAll screenBounds bounds objects).Shaped MAX_DEPTH ∧
      ∀ object ∈ objects, (insertAll screenBounds bounds objects).Keeps screenBounds object := by
  have hempty : (leaf bounds []).Shaped MAX_DEPTH := trivial
  obtain ⟨hbounds, hshaped, hkeeps, -⟩ :=
    foldl_inserts (insertIntoNode_inserts MAX_DEPTH) objects hempty
  exact ⟨hbounds, hshaped, hkeeps⟩

end QuadTreeNode

/-! ## The pairs that reach the narrow phase -/

/-- The pairs that were not processed before, in either order. -/
def testedPairs (processed : List (Nat × Nat)) : List (Nat × Nat) → List (Nat × Nat)
  | [] => []
  | pair :: pairs =>
    if colliderPair pair.1 pair.2 ∈ processed then testedPairs processed pairs
    else pair :: testedPairs (colliderPair pair.1 pair.2 :: processed) pairs

/-- The numbers by which the pairs are remembered. -/
def pairIds (pairs : List (Nat × Nat)) : List (Nat × Nat) :=
  pairs.map fun pair => colliderPair pair.1 pair.2

theorem testedPairs_fresh (processed pairs : List (Nat × Nat)) :
    (pairIds (testedPairs processed pairs)).Nodup ∧
      ∀ id ∈ pairIds (testedPairs processed pairs), id ∉ processed := by
  induction pairs generalizing processed with
  | nil => exact ⟨List.nodup_nil, fun _ hid => absurd hid List.not_mem_nil⟩
  | cons pair pairs ih =>
    unfold testedPairs
    split
    next => exact ih processed
    next hnew =>
      obtain ⟨hnodup, hfresh⟩ := ih (colliderPair pair.1 pair.2 :: processed)
      constructor
      · refine List.nodup_cons.mpr ⟨?_, hnodup⟩
        intro hmem
        exact hfresh _ hmem List.mem_cons_self
      · intro id hid
        rcases List.mem_cons.mp hid with rfl | hid
        · exact hnew
        · intro hold
          exact hfresh id hid (List.mem_cons_of_mem _ hold)

theorem mem_pairIds_testedPairs {processed pairs : List (Nat × Nat)} {id : Nat × Nat}
    (hid : id ∈ pairIds pairs) (hnew : id ∉ processed) :
    id ∈ pairIds (testedPairs processed pairs) := by
  induction pairs generalizing processed with
  | nil => exact hid
  | cons pair pairs ih =>
    unfold testedPairs
    split
    next hold =>
      rcases List.mem_cons.mp hid with rfl | hid
      · exact absurd hold hnew
      · exact ih hid hnew
    next =>
      by_cases hsame : id = colliderPair pair.1 pair.2
      · exact List.mem_cons.mpr (.inl hsame)
      · rcases List.mem_cons.mp hid with hfirst | hid
        · exact absurd hfirst hsame
        · refine List.mem_cons_of_mem _ (ih hid ?_)
          simp [hsame, hnew]

open CollisionPass in
/-- The pass does what the tested pairs do, each of which it remembers. -/
theorem foldl_processCollisionPair (intersects : Nat → Nat → Bool) (pairs : List (Nat × Nat))
    (pass : CollisionPass) :
    pairs.foldl (processCollisionPair intersects) pass =
        (testedPairs pass.processedPairs pairs).foldl (processCollisionPair intersects) pass ∧
      (pairs.foldl (processCollisionPair intersects) pass).processedPairs =
        (pairIds (testedPairs pass.processedPairs pairs)).reverse ++ pass.processedPairs := by
  induction pairs generalizing pass with
  | nil => exact ⟨rfl, rfl⟩
  | cons pair pairs ih =>
    by_cases hold : colliderPair pair.1 pair.2 ∈ pass.processedPairs
    · have hskipped : pass.processCollisionPair intersects pair = pass :=
        processCollisionPair_old hold
      rw [testedPairs, if_pos hold, List.foldl_cons, hskipped]
      exact ih pass
    · have hremembered : (pass.processCollisionPair intersects pair).processedPairs =
          colliderPair pair.1 pair.2 :: pass.processedPairs := by
        rw [processCollisionPair_new hold]
      obtain ⟨hsame, hprocessed⟩ := ih (pass.processCollisionPair intersects pair)
      rw [hremembered] at hsame hprocessed
      rw [testedPairs, if_neg hold, List.foldl_cons, List.foldl_cons]
      refine ⟨hsame, ?_⟩
      rw [hprocessed]
      simp [pairIds]

namespace QuadTreeNode

/-- Whatever the rectangles and the order of insertion, every two objects that share a pixel
of the root reach the narrow phase, and no pair reaches it twice. -/
theorem checkCollisionsInTree_complete (screenBounds : Nat → Rect) (bounds : Rect)
    (objects : List Nat) :
    (∀ first ∈ objects, ∀ second ∈ objects, first ≠ second →
      SharePixel (screenBounds first) (screenBounds second) bounds →
      Listed first second
        (testedPairs [] (insertAll screenBounds bounds objects).collisionPairs)) ∧
    (pairIds (testedPairs [] (insertAll screenBounds bounds objects).collisionPairs)).Nodup ∧
    ∀ intersects collisionMap,
      (insertAll screenBounds bounds objects).collisionPairs.foldl
          (CollisionPass.processCollisionPair intersects) ⟨collisionMap, [], []⟩ =
        (testedPairs [] (insertAll screenBounds bounds objects).collisionPairs).foldl
          (CollisionPass.processCollisionPair intersects) ⟨collisionMap, [], []⟩ ∧
      ((insertAll screenBounds bounds objects).collisionPairs.foldl
          (CollisionPass.processCollisionPair intersects) ⟨collisionMap, [], []⟩).processedPairs =
        (pairIds (testedPairs []
          (insertAll screenBounds bounds objects).collisionPairs)).reverse := by
  refine ⟨?_, (testedPairs_fresh [] _).1, ?_⟩
  · intro first hfirst second hsecond hne hshare
    obtain ⟨hbounds, hshaped, hkeeps⟩ := insertAll_keeps screenBounds bounds objects
    rw [← hbounds] at hshare
    have hsees := sees_of_sharePixel hshaped (hkeeps first hfirst) (hkeeps second hsecond) hshare
    have hlisted := (listed_collisionPairs hne _).mpr hsees
    rw [listed_iff_exists] at hlisted ⊢
    obtain ⟨pair, hpair, hid⟩ := hlisted
    have hmem : colliderPair first second ∈
        pairIds (insertAll screenBounds bounds objects).collisionPairs :=
      List.mem_map.mpr ⟨pair, hpair, hid.symm⟩
    obtain ⟨tested, htested, hsame⟩ :=
      List.mem_map.mp (mem_pairIds_testedPairs hmem List.not_mem_nil)
    exact ⟨tested, htested, hsame.symm⟩
  · intro intersects collisionMap
    have hpass := foldl_processCollisionPair intersects
      (insertAll screenBounds bounds objects).collisionPairs ⟨collisionMap, [], []⟩
    simpa using hpass

end QuadTreeNode

end SurvivalArena
