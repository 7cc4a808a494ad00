import SurvivalArena.Framework.Numerals

/-!
# The quadtree

The tree of screen rectangles that collidable objects are kept in, and the pairs of objects
that its collision traversal looks at.
-/

namespace SurvivalArena

structure Rect where
  left : Int
  top : Int
  right : Int
  bottom : Int
deriving DecidableEq

/-- The rectangles share a pixel. -/
def intersectRect (first second : Rect) : Bool :=
  max first.left second.left < min first.right second.right &&
    max first.top second.top < min first.bottom second.bottom

/-- A node keeps its objects, and a node that has been split the objects of none of its four
children. -/
inductive QuadTreeNode where
  | leaf (bounds : Rect) (objects : List Nat)
  | branch (bounds : Rect) (objects : List Nat) (children : Fin 4 → QuadTreeNode)

namespace QuadTreeNode

def MAX_OBJECTS : Nat := 8
def MAX_DEPTH : Nat := 12

def bounds : QuadTreeNode → Rect
  | leaf bounds _ => bounds
  | branch bounds _ _ => bounds

def objects : QuadTreeNode → List Nat
  | leaf _ objects => objects
  | branch _ objects _ => objects

/-- The objects of a node and of the nodes below it. -/
def allObjects : QuadTreeNode → List Nat
  | leaf _ objects => objects
  | branch _ objects children =>
    objects ++ (List.ofFn fun child => (children child).allObjects).flatten

/-- The bounds of the children of a node: upper left, upper right, lower left and lower
right. -/
def childBounds (bounds : Rect) (child : Fin 4) : Rect :=
  let halfWidth := (bounds.right - bounds.left).tdiv 2
  let halfHeight := (bounds.bottom - bounds.top).tdiv 2
  let x := bounds.left
  let y := bounds.top
  match child with
  | 0 => ⟨x, y, x + halfWidth, y + halfHeight⟩
  | 1 => ⟨x + halfWidth, y, x + halfWidth * 2, y + halfHeight⟩
  | 2 => ⟨x, y + halfHeight, x + halfWidth, y + halfHeight * 2⟩
  | 3 => ⟨x + halfWidth, y + halfHeight, x + halfWidth * 2, y + halfHeight * 2⟩

def pushNew (objects : List Nat) (object : Nat) : List Nat :=
  if object ∈ objects then objects else objects ++ [object]

section Insert

-- the bounds of the objects on the screen
variable (screenBounds : Nat → Rect)

/-- The objects of a node that is split move to the children whose bounds they share a pixel
with; `insert` is the insertion one level below. -/
def split (insert : QuadTreeNode → Nat → QuadTreeNode) (bounds : Rect) (objects : List Nat) :
    QuadTreeNode :=
  branch bounds
    (objects.filter fun object =>
      !(List.finRange 4).any fun child =>
        intersectRect (screenBounds object) (childBounds bounds child))
    fun child =>
      (objects.filter fun object =>
        intersectRect (screenBounds object) (childBounds bounds child)).foldl insert
          (leaf (childBounds bounds child) [])

/-- Insertion at a depth that leaves room for so many levels below. -/
def insertIntoNode : (room : Nat) → QuadTreeNode → Nat → QuadTreeNode
  | 0, leaf bounds objects, object => leaf bounds (pushNew objects object)
  | room + 1, leaf bounds objects, object =>
    let objects := pushNew objects object
    if MAX_OBJECTS < objects.length then
      split screenBounds (insertIntoNode room) bounds objects
    else leaf bounds objects
  | 0, branch bounds objects children, _ => branch bounds objects children
  | room + 1, branch bounds objects children, object =>
    if (List.finRange 4).any fun child =>
        intersectRect (screenBounds object) (children child).bounds then
      branch bounds objects fun child =>
        if intersectRect (screenBounds object) (children child).bounds then
          insertIntoNode room (children child) object
        else children child
    else branch bounds (pushNew objects object) children

end Insert

/-! ## The pairs that the traversal looks at -/

/-- The bounds of two nodes touch. -/
def areNodesAdjacent (first second : Rect) : Bool :=
  !(first.right < second.left || second.right < first.left ||
    first.bottom < second.top || second.bottom < first.top)

/-- The pairs of a list, each element with the later ones. -/
def laterPairs : List Nat → List (Nat × Nat)
  | [] => []
  | object :: later => later.map (fun other => (object, other)) ++ laterPairs later

/-- The objects of two nodes, without those below them. -/
def checkCrossNodeCollisions (first second : QuadTreeNode) : List (Nat × Nat) :=
  if areNodesAdjacent first.bounds second.bounds then
    first.objects.flatMap fun object =>
      (second.objects.filter fun other => object ≠ other).map fun other => (object, other)
  else []

/-- The pairs of children, each with the later ones. -/
def childPairs : List (Fin 4 × Fin 4) :=
  [(0, 1), (0, 2), (0, 3), (1, 2), (1, 3), (2, 3)]

def checkCollisionsInNode : QuadTreeNode → List (Nat × Nat)
  | leaf _ objects => laterPairs objects
  | branch _ objects children =>
    laterPairs objects ++
      (List.ofFn fun child => (children child).checkCollisionsInNode).flatten ++
      childPairs.flatMap fun pair =>
        checkCrossNodeCollisions (children pair.1) (children pair.2)

/-- An object with those of a node and of the nodes below it. -/
def checkObjectWithNode (object : Nat) : QuadTreeNode → List (Nat × Nat)
  | leaf _ objects => (objects.filter fun other => other ≠ object).map fun other => (object, other)
  | branch _ objects children =>
    ((objects.filter fun other => other ≠ object).map fun other => (object, other)) ++
      (List.ofFn fun child => checkObjectWithNode object (children child)).flatten

def checkBoundaryCollisions : QuadTreeNode → List (Nat × Nat)
  | leaf _ _ => []
  | branch _ objects children =>
    (objects.flatMap fun object =>
      (List.ofFn fun child => checkObjectWithNode object (children child)).flatten) ++
      (List.ofFn fun child => (children child).checkBoundaryCollisions).flatten

/-- The pairs in the order in which the traversal comes to them. -/
def collisionPairs (root : QuadTreeNode) : List (Nat × Nat) :=
  root.checkCollisionsInNode ++ root.checkBoundaryCollisions

/-! ## What the traversal sees -/

/-- Objects of two adjacent children of a node. -/
def Crosses (first second : Nat) (children : Fin 4 → QuadTreeNode) : Prop :=
  ∃ one other, one ≠ other ∧
    areNodesAdjacent (children one).bounds (children other).bounds = true ∧
    first ∈ (children one).objects ∧ second ∈ (children other).objects

/-- Two objects of one node, of a node and one below it, or of two adjacent children of a
node. -/
def Sees (first second : Nat) : QuadTreeNode → Prop
  | leaf _ objects => first ∈ objects ∧ second ∈ objects
  | branch _ objects children =>
    (first ∈ objects ∧ second ∈ objects) ∨
      (first ∈ objects ∧ ∃ child, second ∈ (children child).allObjects) ∨
      (second ∈ objects ∧ ∃ child, first ∈ (children child).allObjects) ∨
      (∃ child, (children child).Sees first second) ∨
      Crosses first second children

variable {first second : Nat}

theorem mem_flatten_ofFn {α : Type} {f : Fin 4 → List α} {x : α} :
    x ∈ (List.ofFn f).flatten ↔ ∃ child, x ∈ f child := by
  rw [List.mem_flatten]
  constructor
  · rintro ⟨l, hl, hx⟩
    obtain ⟨child, rfl⟩ := List.mem_ofFn.mp hl
    exact ⟨child, hx⟩
  · rintro ⟨child, hx⟩
    exact ⟨f child, List.mem_ofFn.mpr ⟨child, rfl⟩, hx⟩

/-- A pair is in a list in one of its two orders. -/
def Listed (first second : Nat) (pairs : List (Nat × Nat)) : Prop :=
  (first, second) ∈ pairs ∨ (second, first) ∈ pairs

theorem listed_append {pairs later : List (Nat × Nat)} :
    Listed first second (pairs ++ later) ↔
      Listed first second pairs ∨ Listed first second later := by
  unfold Listed
  rw [List.mem_append, List.mem_append]
  tauto

theorem listed_ofFn {pairs : Fin 4 → List (Nat × Nat)} :
    Listed first second (List.ofFn pairs).flatten ↔
      ∃ child, Listed first second (pairs child) := by
  unfold Listed
  rw [mem_flatten_ofFn, mem_flatten_ofFn, exists_or]

theorem mem_laterPairs {objects : List Nat} (h : (first, second) ∈ laterPairs objects) :
    first ∈ objects ∧ second ∈ objects := by
  induction objects with
  | nil => exact nomatch h
  | cons object later ih =>
    rw [laterPairs, List.mem_append, List.mem_map] at h
    rcases h with ⟨other, hother, heq⟩ | h
    · obtain ⟨rfl, rfl⟩ := Prod.mk.inj heq
      exact ⟨List.mem_cons_self, List.mem_cons_of_mem _ hother⟩
    · exact ⟨List.mem_cons_of_mem _ (ih h).1, List.mem_cons_of_mem _ (ih h).2⟩

theorem listed_laterPairs (hne : first ≠ second) {objects : List Nat} :
    Listed first second (laterPairs objects) ↔ first ∈ objects ∧ second ∈ objects := by
  constructor
  · rintro (h | h)
    · exact mem_laterPairs h
    · exact (mem_laterPairs h).symm
  · rintro ⟨hfirst, hsecond⟩
    induction objects with
    | nil => exact nomatch hfirst
    | cons object later ih =>
      rw [laterPairs, listed_append]
      rcases List.mem_cons.mp hfirst with rfl | hfirst'
      · rcases List.mem_cons.mp hsecond with rfl | hsecond'
        · exact absurd rfl hne
        · exact .inl (.inl (List.mem_map.mpr ⟨second, hsecond', rfl⟩))
      · rcases List.mem_cons.mp hsecond with rfl | hsecond'
        · exact .inl (.inr (List.mem_map.mpr ⟨first, hfirst', rfl⟩))
        · exact .inr (ih hfirst' hsecond')

theorem mem_checkCrossNodeCollisions {one other : QuadTreeNode} :
    (first, second) ∈ checkCrossNodeCollisions one other ↔
      areNodesAdjacent one.bounds other.bounds = true ∧
        first ∈ one.objects ∧ second ∈ other.objects ∧ first ≠ second := by
  unfold checkCrossNodeCollisions
  split
  next hadjacent =>
    simp only [List.mem_flatMap, List.mem_map, List.mem_filter, decide_eq_true_eq,
      Prod.mk.injEq]
    constructor
    · rintro ⟨object, hobject, target, ⟨htarget, hne⟩, rfl, rfl⟩
      exact ⟨hadjacent, hobject, htarget, hne⟩
    · rintro ⟨-, hfirst, hsecond, hne⟩
      exact ⟨first, hfirst, second, ⟨hsecond, hne⟩, rfl, rfl⟩
  next hapart =>
    exact iff_of_false (fun h => nomatch h) fun h => hapart h.1

theorem mem_checkObjectWithNode {object : Nat} {node : QuadTreeNode} :
    (first, second) ∈ checkObjectWithNode object node ↔
      first = object ∧ second ∈ node.allObjects ∧ second ≠ object := by
  have hown : ∀ objects : List Nat,
      (first, second) ∈ (objects.filter fun other => other ≠ object).map
          (fun other => (object, other)) ↔
        first = object ∧ second ∈ objects ∧ second ≠ object := by
    intro objects
    simp only [List.mem_map, List.mem_filter, decide_eq_true_eq, Prod.mk.injEq]
    constructor
    · rintro ⟨other, hother, rfl, rfl⟩
      exact ⟨rfl, hother⟩
    · rintro ⟨rfl, hsecond⟩
      exact ⟨second, hsecond, rfl, rfl⟩
  induction node with
  | leaf bounds objects => exact hown objects
  | branch bounds objects children ih =>
    rw [checkObjectWithNode, allObjects, List.mem_append, List.mem_append, hown,
      mem_flatten_ofFn, mem_flatten_ofFn]
    simp only [ih]
    constructor
    · rintro (⟨hobject, hsecond, hne⟩ | ⟨child, hobject, hsecond, hne⟩)
      · exact ⟨hobject, .inl hsecond, hne⟩
      · exact ⟨hobject, .inr ⟨child, hsecond⟩, hne⟩
    · rintro ⟨hobject, hsecond | ⟨child, hsecond⟩, hne⟩
      · exact .inl ⟨hobject, hsecond, hne⟩
      · exact .inr ⟨child, hobject, hsecond, hne⟩

theorem areNodesAdjacent_comm (one other : Rect) :
    areNodesAdjacent one other = areNodesAdjacent other one := by
  unfold areNodesAdjacent
  congr 1
  rw [Bool.or_comm (decide (one.right < other.left)), Bool.or_assoc, Bool.or_assoc,
    Bool.or_comm (decide (one.bottom < other.top)), ← Bool.or_assoc, ← Bool.or_assoc]

theorem childPairs_cover : ∀ one other : Fin 4,
    one ≠ other ↔ (one, other) ∈ childPairs ∨ (other, one) ∈ childPairs := by
  decide

theorem listed_cross (hne : first ≠ second) {children : Fin 4 → QuadTreeNode} :
    Listed first second (childPairs.flatMap fun pair =>
        checkCrossNodeCollisions (children pair.1) (children pair.2)) ↔
      Crosses first second children := by
  unfold Listed
  rw [List.mem_flatMap, List.mem_flatMap]
  simp only [mem_checkCrossNodeCollisions]
  constructor
  · rintro (⟨pair, hpair, hadjacent, hfirst, hsecond, -⟩ |
      ⟨pair, hpair, hadjacent, hsecond, hfirst, -⟩)
    · exact ⟨pair.1, pair.2, (childPairs_cover _ _).mpr (.inl hpair), hadjacent, hfirst, hsecond⟩
    · rw [areNodesAdjacent_comm] at hadjacent
      exact ⟨pair.2, pair.1, (childPairs_cover _ _).mpr (.inr hpair), hadjacent, hfirst, hsecond⟩
  · rintro ⟨one, other, hother, hadjacent, hfirst, hsecond⟩
    rcases (childPairs_cover one other).mp hother with hpair | hpair
    · exact .inl ⟨(one, other), hpair, hadjacent, hfirst, hsecond, hne⟩
    · rw [areNodesAdjacent_comm] at hadjacent
      exact .inr ⟨(other, one), hpair, hadjacent, hsecond, hfirst, hne.symm⟩

theorem listed_boundary (hne : first ≠ second) {objects : List Nat}
    {children : Fin 4 → QuadTreeNode} :
    Listed first second (objects.flatMap fun object =>
        (List.ofFn fun child => checkObjectWithNode object (children child)).flatten) ↔
      (first ∈ objects ∧ ∃ child, second ∈ (children child).allObjects) ∨
        (second ∈ objects ∧ ∃ child, first ∈ (children child).allObjects) := by
  have hordered : ∀ one other, one ≠ other →
      ((one, other) ∈ (objects.flatMap fun object =>
          (List.ofFn fun child => checkObjectWithNode object (children child)).flatten) ↔
        one ∈ objects ∧ ∃ child, other ∈ (children child).allObjects) := by
    intro one other hother
    simp only [List.mem_flatMap, mem_flatten_ofFn, mem_checkObjectWithNode]
    constructor
    · rintro ⟨object, hobject, child, rfl, hmem, -⟩
      exact ⟨hobject, child, hmem⟩
    · rintro ⟨hobject, child, hmem⟩
      exact ⟨one, hobject, child, rfl, hmem, hother.symm⟩
  unfold Listed
  rw [hordered first second hne, hordered second first hne.symm]

/-- The traversal looks at the pairs that the tree sees. -/
theorem listed_collisionPairs (hne : first ≠ second) (root : QuadTreeNode) :
    Listed first second root.collisionPairs ↔ root.Sees first second := by
  unfold collisionPairs
  rw [listed_append]
  induction root with
  | leaf bounds objects =>
    rw [checkCollisionsInNode, checkBoundaryCollisions, listed_laterPairs hne, Sees]
    constructor
    · rintro (h | h | h)
      · exact h
      · exact nomatch h
      · exact nomatch h
    · exact .inl
  | branch bounds objects children ih =>
    rw [checkCollisionsInNode, checkBoundaryCollisions, listed_append, listed_append,
      listed_append, listed_laterPairs hne, listed_cross hne, listed_boundary hne, listed_ofFn,
      listed_ofFn, Sees]
    constructor
    · rintro (((h | ⟨child, h⟩) | h) | (h | h) | ⟨child, h⟩)
      · exact .inl h
      · exact .inr (.inr (.inr (.inl ⟨child, (ih child).mp (.inl h)⟩)))
      · exact .inr (.inr (.inr (.inr h)))
      · exact .inr (.inl h)
      · exact .inr (.inr (.inl h))
      · exact .inr (.inr (.inr (.inl ⟨child, (ih child).mp (.inr h)⟩)))
    · rintro (h | h | h | ⟨child, h⟩ | h)
      · exact .inl (.inl (.inl h))
      · exact .inr (.inl (.inl h))
      · exact .inr (.inl (.inr h))
      · rcases (ih child).mpr h with h | h
        · exact .inl (.inl (.inr ⟨child, h⟩))
        · exact .inr (.inr ⟨child, h⟩)
      · exact .inl (.inr h)

/-! ## Every node keeps an object once -/

def Tidy : QuadTreeNode → Prop
  | leaf _ objects => objects.Nodup
  | branch _ objects children => objects.Nodup ∧ ∀ child, (children child).Tidy

theorem pushNew_nodup {objects : List Nat} (h : objects.Nodup) (object : Nat) :
    (pushNew objects object).Nodup := by
  unfold pushNew
  split
  · exact h
  next hnew => exact List.nodup_append.mpr ⟨h, List.nodup_singleton object, by
      rintro one hone other hother rfl
      exact hnew (List.mem_singleton.mp hother ▸ hone)⟩

theorem foldl_tidy {insert : QuadTreeNode → Nat → QuadTreeNode}
    (hinsert : ∀ node object, node.Tidy → (insert node object).Tidy) (objects : List Nat)
    {node : QuadTreeNode} (h : node.Tidy) : (objects.foldl insert node).Tidy := by
  induction objects generalizing node with
  | nil => exact h
  | cons object objects ih => exact ih (hinsert node object h)

theorem split_tidy {screenBounds : Nat → Rect} {insert : QuadTreeNode → Nat → QuadTreeNode}
    (hinsert : ∀ node object, node.Tidy → (insert node object).Tidy) (bounds : Rect)
    {objects : List Nat} (h : objects.Nodup) :
    (split screenBounds insert bounds objects).Tidy :=
  ⟨h.filter _, fun _ => foldl_tidy hinsert _ List.nodup_nil⟩

theorem insertIntoNode_tidy {screenBounds : Nat → Rect} (room : Nat) (node : QuadTreeNode)
    (object : Nat) (h : node.Tidy) : (insertIntoNode screenBounds room node object).Tidy := by
  induction room generalizing node object with
  | zero =>
    cases node with
    | leaf bounds objects => exact pushNew_nodup h object
    | branch bounds objects children => exact h
  | succ room ih =>
    cases node with
    | leaf bounds objects =>
      have hpushed : (pushNew objects object).Nodup := pushNew_nodup h object
      dsimp only [insertIntoNode]
      split
      · exact split_tidy ih bounds hpushed
      · exact hpushed
    | branch bounds objects children =>
      dsimp only [insertIntoNode]
      split
      · refine ⟨h.1, fun child => ?_⟩
        dsimp only
        split
        · exact ih _ object (h.2 child)
        · exact h.2 child
      · exact ⟨pushNew_nodup h.1 object, h.2⟩

theorem laterPairs_ne {objects : List Nat} (h : objects.Nodup)
    (hpair : (first, second) ∈ laterPairs objects) : first ≠ second := by
  induction objects with
  | nil => exact nomatch hpair
  | cons object later ih =>
    obtain ⟨hnew, hlater⟩ := List.nodup_cons.mp h
    rw [laterPairs, List.mem_append, List.mem_map] at hpair
    rcases hpair with ⟨other, hother, heq⟩ | hpair
    · obtain ⟨rfl, rfl⟩ := Prod.mk.inj heq
      rintro rfl
      exact hnew hother
    · exact ih hlater hpair

/-- The traversal looks at no object with itself. -/
theorem collisionPairs_ne {root : QuadTreeNode} (h : root.Tidy)
    (hpair : (first, second) ∈ root.collisionPairs) : first ≠ second := by
  unfold collisionPairs at hpair
  rw [List.mem_append] at hpair
  induction root with
  | leaf bounds objects =>
    rcases hpair with hpair | hpair
    · exact laterPairs_ne h hpair
    · exact nomatch hpair
  | branch bounds objects children ih =>
    rw [checkCollisionsInNode, checkBoundaryCollisions, List.mem_append, List.mem_append,
      List.mem_append, mem_flatten_ofFn, mem_flatten_ofFn] at hpair
    rcases hpair with ((hpair | ⟨child, hpair⟩) | hpair) | hpair | ⟨child, hpair⟩
    · exact laterPairs_ne h.1 hpair
    · exact ih child (h.2 child) (.inl hpair)
    · obtain ⟨pair, -, hmem⟩ := List.mem_flatMap.mp hpair
      exact (mem_checkCrossNodeCollisions.mp hmem).2.2.2
    · obtain ⟨object, -, hmem⟩ := List.mem_flatMap.mp hpair
      obtain ⟨child, hmem⟩ := mem_flatten_ofFn.mp hmem
      obtain ⟨rfl, -, hne⟩ := mem_checkObjectWithNode.mp hmem
      exact hne.symm
    · exact ih child (h.2 child) (.inr hpair)

end QuadTreeNode

end SurvivalArena
