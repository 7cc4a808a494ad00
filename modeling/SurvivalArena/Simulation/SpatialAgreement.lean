import SurvivalArena.Simulation.ExactMovement
import SurvivalArena.Simulation.SpatialIndex

/-!
# The quadtree and the linear index

Every entity of a subtree lies within the loose bounds of its root, so what a query prunes
holds no answer.  The tree that is built holds each entity once.
-/

namespace SurvivalArena

open KeyedList

namespace QuadtreeNode

section Trees

variable {R : Type} [Scalar R]

/-- The entities of a subtree, in the order they are visited. -/
def members : QuadtreeNode R → List (SpatialEntity R)
  | leaf _ _ entities => entities
  | split _ _ entities first second third fourth =>
    entities ++ first.members ++ second.members ++ third.members ++ fourth.members

/-- The levels of nodes below a node. -/
def depth : QuadtreeNode R → Nat
  | leaf .. => 0
  | split _ _ _ first second third fourth =>
    max (max first.depth second.depth) (max third.depth fourth.depth) + 1

/-- The entities of every subtree lie within the loose bounds of its root. -/
inductive WellPlaced (valid : Aabb2 R → Prop) : QuadtreeNode R → Prop
  | leaf {tight loose : Aabb2 R} {entities : List (SpatialEntity R)} (htight : valid tight)
    (hwithin : ∀ entity ∈ entities, loose.containsBox entity.bounds = true) :
    WellPlaced valid (.leaf tight loose entities)
  | split {tight loose : Aabb2 R} {entities : List (SpatialEntity R)}
    {first second third fourth : QuadtreeNode R} (htight : valid tight)
    (hwithin : ∀ entity ∈ (QuadtreeNode.split tight loose entities first second third
      fourth).members, loose.containsBox entity.bounds = true)
    (hfirst : WellPlaced valid first) (hsecond : WellPlaced valid second)
    (hthird : WellPlaced valid third) (hfourth : WellPlaced valid fourth) :
    WellPlaced valid (.split tight loose entities first second third fourth)

/-! ## Queries -/

/-- A query by a test of boxes, which prunes with the same test. -/
def search (passes : Aabb2 R → Bool) : QuadtreeNode R → List UInt32
  | leaf _ loose entities =>
    if passes loose then
      (entities.filter fun entity => passes entity.bounds).map SpatialEntity.id
    else []
  | split _ loose entities first second third fourth =>
    if passes loose then
      (entities.filter fun entity => passes entity.bounds).map SpatialEntity.id ++
        first.search passes ++ second.search passes ++ third.search passes ++
        fourth.search passes
    else []

theorem queryAabb_eq_search (bounds : Aabb2 R) (node : QuadtreeNode R) :
    node.queryAabb bounds = node.search fun box => box.intersects bounds := by
  induction node with
  | leaf tight loose entities => rfl
  | split tight loose entities first second third fourth hfirst hsecond hthird hfourth =>
    rw [queryAabb, search, hfirst, hsecond, hthird, hfourth]

theorem pickPoint_eq_search (point : Vec2 R) (node : QuadtreeNode R) :
    node.pickPoint point = node.search fun box => box.contains point := by
  induction node with
  | leaf tight loose entities => rfl
  | split tight loose entities first second third fourth hfirst hsecond hthird hfourth =>
    rw [pickPoint, search, hfirst, hsecond, hthird, hfourth]

/-- Where a box passes whenever a box within it does, pruning loses nothing. -/
theorem WellPlaced.search_eq {valid : Aabb2 R → Prop} {passes : Aabb2 R → Bool}
    (hpasses : ∀ box inner : Aabb2 R, box.containsBox inner = true → passes inner = true →
      passes box = true) {node : QuadtreeNode R} (h : WellPlaced valid node) :
    node.search passes =
      (node.members.filter fun entity => passes entity.bounds).map SpatialEntity.id := by
  have hpruned {loose : Aabb2 R} {entities : List (SpatialEntity R)}
      (hwithin : ∀ entity ∈ entities, loose.containsBox entity.bounds = true)
      (hloose : ¬passes loose = true) :
      (entities.filter fun entity => passes entity.bounds) = [] := by
    refine List.filter_eq_nil_iff.mpr fun entity hentity hpassed => hloose ?_
    exact hpasses _ _ (hwithin entity hentity) hpassed
  induction h with
  | leaf htight hwithin =>
    rw [search, members]
    split
    · rfl
    next hloose => rw [hpruned hwithin hloose, List.map_nil]
  | split htight hwithin hfirst hsecond hthird hfourth ihfirst ihsecond ihthird ihfourth =>
    rw [search]
    split
    · rw [members, ihfirst, ihsecond, ihthird, ihfourth]
      simp only [List.filter_append, List.map_append]
    next hloose => rw [hpruned hwithin hloose, List.map_nil]

/-! ## Building -/

/-- Insert an entity below a node that does not split, as `insert` does it. -/
def place (config : LooseQuadtreeConfig R) (levels : Nat) :
    QuadtreeNode R → SpatialEntity R → Except Exception (QuadtreeNode R)
  | .leaf tight loose entities, entity => .ok (.leaf tight loose (entities ++ [entity]))
  | .split tight loose entities first second third fourth, entity =>
    match containingChild [first, second, third, fourth] entity.bounds with
    | some 0 => do
      let first ← insert config levels first entity
      pure (.split tight loose entities first second third fourth)
    | some 1 => do
      let second ← insert config levels second entity
      pure (.split tight loose entities first second third fourth)
    | some 2 => do
      let third ← insert config levels third entity
      pure (.split tight loose entities first second third fourth)
    | some _ => do
      let fourth ← insert config levels fourth entity
      pure (.split tight loose entities first second third fourth)
    | none => .ok (.split tight loose (entities ++ [entity]) first second third fourth)

theorem insert_leaf (config : LooseQuadtreeConfig R) (levels : Nat) (tight loose : Aabb2 R)
    (entities : List (SpatialEntity R)) (entity : SpatialEntity R) :
    insert config (levels + 1) (.leaf tight loose entities) entity =
      if config.nodeCapacity < (entities ++ [entity]).length then do
        let (first, second, third, fourth) ← createChildren tight config.looseness
        (entities ++ [entity]).foldlM (place config levels)
          (.split tight loose [] first second third fourth)
      else .ok (.leaf tight loose (entities ++ [entity])) :=
  rfl

theorem containingChild_contains {children : List (QuadtreeNode R)} {bounds : Aabb2 R}
    {index : Nat} (h : containingChild children bounds = some index) :
    ∃ child, children[index]? = some child ∧ child.looseBounds.containsBox bounds = true := by
  unfold containingChild at h
  split at h
  next child hone =>
    obtain rfl := Option.some.inj h
    have hmem : child ∈ children.zipIdx.filter fun child =>
        child.1.looseBounds.containsBox bounds := by
      rw [hone]
      exact List.mem_singleton_self child
    obtain ⟨hmem, hcontains⟩ := List.mem_filter.mp hmem
    exact ⟨child.1, List.mem_zipIdx_iff_getElem?.mp hmem, hcontains⟩
  next => cases h

/-- The node after an insertion. -/
structure Inserted (valid : Aabb2 R → Prop) (levels : Nat) (node : QuadtreeNode R)
    (entity : SpatialEntity R) (node' : QuadtreeNode R) : Prop where
  looseBounds : node'.looseBounds = node.looseBounds
  members : node'.members.Perm (entity :: node.members)
  placed : WellPlaced valid node'
  depth : node'.depth ≤ levels

/-- A node without entities that has not split. -/
structure Fresh (valid : Aabb2 R → Prop) (node : QuadtreeNode R) : Prop where
  placed : WellPlaced valid node
  members : node.members = []
  depth : node.depth = 0

/-- Splitting a valid box succeeds. -/
def Splits (valid : Aabb2 R → Prop) (looseness : R) : Prop :=
  ∀ tight, valid tight → ∃ first second third fourth,
    createChildren tight looseness = .ok (first, second, third, fourth) ∧
      Fresh valid first ∧ Fresh valid second ∧ Fresh valid third ∧ Fresh valid fourth

/-- One element more in a part of a list. -/
theorem perm_between {α : Type} {part part' : List α} {a : α} (h : part'.Perm (a :: part))
    (before after : List α) :
    (before ++ (part' ++ after)).Perm (a :: (before ++ (part ++ after))) :=
  ((h.append_right after).append_left before).trans List.perm_middle

section Insertion

variable {valid : Aabb2 R → Prop} {config : LooseQuadtreeConfig R} {levels : Nat}

/-- An entity that stays at a leaf. -/
theorem inserted_leaf {tight loose : Aabb2 R} {entities : List (SpatialEntity R)}
    {entity : SpatialEntity R} (h : WellPlaced valid (.leaf tight loose entities))
    (hentity : loose.containsBox entity.bounds = true) :
    Inserted valid levels (.leaf tight loose entities) entity
      (.leaf tight loose (entities ++ [entity])) := by
  cases h with
  | leaf htight hwithin =>
    refine ⟨rfl, List.perm_append_singleton entity entities, .leaf htight ?_, Nat.zero_le _⟩
    exact List.forall_mem_append.mpr ⟨hwithin, List.forall_mem_singleton.mpr hentity⟩

/-- A split node whose members got one more. -/
theorem inserted_split {tight loose : Aabb2 R} {entities entities' : List (SpatialEntity R)}
    {first second third fourth first' second' third' fourth' : QuadtreeNode R}
    {entity : SpatialEntity R}
    (h : WellPlaced valid (.split tight loose entities first second third fourth))
    (hentity : loose.containsBox entity.bounds = true)
    (hfirst : WellPlaced valid first') (hsecond : WellPlaced valid second')
    (hthird : WellPlaced valid third') (hfourth : WellPlaced valid fourth')
    (hmembers : (entities' ++ first'.members ++ second'.members ++ third'.members ++
      fourth'.members).Perm (entity :: (entities ++ first.members ++ second.members ++
        third.members ++ fourth.members)))
    (hdepth : max (max first'.depth second'.depth) (max third'.depth fourth'.depth) ≤ levels) :
    Inserted valid (levels + 1) (.split tight loose entities first second third fourth) entity
      (.split tight loose entities' first' second' third' fourth') := by
  cases h with
  | split htight hwithin =>
    refine ⟨rfl, hmembers, .split htight ?_ hfirst hsecond hthird hfourth,
      Nat.succ_le_succ hdepth⟩
    intro member hmember
    rcases List.mem_cons.mp (hmembers.mem_iff.mp hmember) with rfl | hold
    · exact hentity
    · exact hwithin member hold

theorem place_spec (hinsert : ∀ node entity, WellPlaced valid node → node.depth ≤ levels →
      node.looseBounds.containsBox entity.bounds = true →
      ∃ node', insert config levels node entity = .ok node' ∧
        Inserted valid levels node entity node')
    {tight loose : Aabb2 R} {entities : List (SpatialEntity R)}
    {first second third fourth : QuadtreeNode R} {entity : SpatialEntity R}
    (h : WellPlaced valid (.split tight loose entities first second third fourth))
    (hdepth : (QuadtreeNode.split tight loose entities first second third fourth).depth ≤
      levels + 1)
    (hentity : loose.containsBox entity.bounds = true) :
    ∃ node', place config levels (.split tight loose entities first second third fourth) entity =
        .ok node' ∧
      Inserted valid (levels + 1) (.split tight loose entities first second third fourth) entity
        node' ∧ node'.depth ≠ 0 := by
  have hplaced := h
  have hdepths : max (max first.depth second.depth) (max third.depth fourth.depth) ≤ levels :=
    Nat.le_of_succ_le_succ hdepth
  cases h with
  | split htight hwithin hfirst hsecond hthird hfourth =>
  unfold place
  dsimp only
  split
  next hchild =>
    obtain ⟨child, hsome, hcontains⟩ := containingChild_contains hchild
    obtain rfl := Option.some.inj hsome
    obtain ⟨first', hinserted, hnew⟩ := hinsert first entity hfirst (by omega) hcontains
    have hdepth' := hnew.depth
    rw [hinserted]
    refine ⟨_, rfl, inserted_split hplaced hentity hnew.placed hsecond hthird hfourth ?_
      (by omega), Nat.succ_ne_zero _⟩
    simpa only [List.append_assoc] using perm_between hnew.members entities
      (second.members ++ (third.members ++ fourth.members))
  next hchild =>
    obtain ⟨child, hsome, hcontains⟩ := containingChild_contains hchild
    obtain rfl := Option.some.inj hsome
    obtain ⟨second', hinserted, hnew⟩ := hinsert second entity hsecond (by omega) hcontains
    have hdepth' := hnew.depth
    rw [hinserted]
    refine ⟨_, rfl, inserted_split hplaced hentity hfirst hnew.placed hthird hfourth ?_
      (by omega), Nat.succ_ne_zero _⟩
    simpa only [List.append_assoc] using perm_between hnew.members
      (entities ++ first.members) (third.members ++ fourth.members)
  next hchild =>
    obtain ⟨child, hsome, hcontains⟩ := containingChild_contains hchild
    obtain rfl := Option.some.inj hsome
    obtain ⟨third', hinserted, hnew⟩ := hinsert third entity hthird (by omega) hcontains
    have hdepth' := hnew.depth
    rw [hinserted]
    refine ⟨_, rfl, inserted_split hplaced hentity hfirst hsecond hnew.placed hfourth ?_
      (by omega), Nat.succ_ne_zero _⟩
    simpa only [List.append_assoc] using perm_between hnew.members
      (entities ++ first.members ++ second.members) fourth.members
  next index hzero hone htwo hchild =>
    obtain ⟨child, hsome, hcontains⟩ := containingChild_contains hchild
    have hfourthChild : child = fourth := by
      match index with
      | 0 => exact absurd rfl hzero
      | 1 => exact absurd rfl hone
      | 2 => exact absurd rfl htwo
      | 3 => exact (Option.some.inj hsome).symm
      | index + 4 => cases hsome
    rw [hfourthChild] at hcontains
    obtain ⟨fourth', hinserted, hnew⟩ := hinsert fourth entity hfourth (by omega) hcontains
    have hdepth' := hnew.depth
    rw [hinserted]
    refine ⟨_, rfl, inserted_split hplaced hentity hfirst hsecond hthird hnew.placed ?_
      (by omega), Nat.succ_ne_zero _⟩
    simpa only [List.append_assoc, List.append_nil] using perm_between hnew.members
      (entities ++ first.members ++ second.members ++ third.members) []
  next =>
    refine ⟨_, rfl, inserted_split hplaced hentity hfirst hsecond hthird hfourth ?_ hdepths,
      Nat.succ_ne_zero _⟩
    simpa only [List.append_assoc, List.nil_append] using perm_between
      (List.perm_append_singleton entity entities) []
      (first.members ++ (second.members ++ (third.members ++ fourth.members)))

/-- The insertion of a row of entities into a split node. -/
theorem placeAll_spec (hinsert : ∀ node entity, WellPlaced valid node → node.depth ≤ levels →
      node.looseBounds.containsBox entity.bounds = true →
      ∃ node', insert config levels node entity = .ok node' ∧
        Inserted valid levels node entity node')
    (entities : List (SpatialEntity R)) {loose : Aabb2 R} {node : QuadtreeNode R}
    (hplaced : WellPlaced valid node) (hdepth : node.depth ≤ levels + 1)
    (hsplit : node.depth ≠ 0) (hloose : node.looseBounds = loose)
    (hentities : ∀ entity ∈ entities, loose.containsBox entity.bounds = true) :
    ∃ node', entities.foldlM (place config levels) node = .ok node' ∧
      node'.looseBounds = loose ∧ node'.members.Perm (entities ++ node.members) ∧
      WellPlaced valid node' ∧ node'.depth ≤ levels + 1 := by
  induction entities generalizing node with
  | nil => exact ⟨node, rfl, hloose, List.Perm.refl _, hplaced, hdepth⟩
  | cons entity entities ih =>
    obtain ⟨hentity, hlater⟩ := List.forall_mem_cons.mp hentities
    cases node with
    | leaf => exact absurd rfl hsplit
    | split tight loose' own first second third fourth =>
      obtain rfl := hloose
      obtain ⟨next, hnext, hinserted, hdeep⟩ := place_spec hinsert hplaced hdepth hentity
      obtain ⟨final, hfinal, hsame, hmembers, hrest⟩ := ih hinserted.placed hinserted.depth hdeep
        hinserted.looseBounds hlater
      refine ⟨final, ?_, hsame, ?_, hrest⟩
      · rw [List.foldlM_cons, hnext]
        exact hfinal
      · exact hmembers.trans ((hinserted.members.append_left entities).trans List.perm_middle)

/-- What an insertion does. -/
theorem insert_spec (hsplits : Splits valid config.looseness) (levels : Nat)
    (node : QuadtreeNode R) (entity : SpatialEntity R) (hplaced : WellPlaced valid node)
    (hdepth : node.depth ≤ levels)
    (hentity : node.looseBounds.containsBox entity.bounds = true) :
    ∃ node', insert config levels node entity = .ok node' ∧
      Inserted valid levels node entity node' := by
  induction levels generalizing node entity with
  | zero =>
    cases node with
    | leaf tight loose entities => exact ⟨_, rfl, inserted_leaf hplaced hentity⟩
    | split => exact absurd hdepth (Nat.not_succ_le_zero _)
  | succ levels ih =>
    cases node with
    | split tight loose entities first second third fourth =>
      obtain ⟨node', hinserted, hnew, -⟩ := place_spec ih hplaced hdepth hentity
      exact ⟨node', hinserted, hnew⟩
    | leaf tight loose entities =>
      rw [insert_leaf]
      split
      next hfull =>
        cases hplaced with
        | leaf htight hwithin =>
          obtain ⟨first, second, third, fourth, hchildren, hfirst, hsecond, hthird, hfourth⟩ :=
            hsplits tight htight
          have hnone : (QuadtreeNode.split tight loose [] first second third fourth).members =
              [] := by
            rw [members, hfirst.members, hsecond.members, hthird.members, hfourth.members]
            rfl
          have hempty : WellPlaced valid (.split tight loose [] first second third fourth) := by
            refine .split htight ?_ hfirst.placed hsecond.placed hthird.placed hfourth.placed
            rw [hnone]
            exact nofun
          have hone : (QuadtreeNode.split tight loose [] first second third fourth).depth = 1 := by
            rw [depth, hfirst.depth, hsecond.depth, hthird.depth, hfourth.depth]
            rfl
          obtain ⟨node', hinserted, hloose, hmembers, hplaced, hdepth⟩ :=
            placeAll_spec ih (entities ++ [entity]) hempty (by omega) (by omega) rfl
              (List.forall_mem_append.mpr ⟨hwithin, List.forall_mem_singleton.mpr hentity⟩)
          rw [hnone, List.append_nil] at hmembers
          rw [hchildren]
          exact ⟨node', hinserted, hloose, hmembers.trans (List.perm_append_singleton _ _),
            hplaced, hdepth⟩
      next => exact ⟨_, rfl, inserted_leaf hplaced hentity⟩

/-- The tree after all insertions. -/
theorem insertAll_spec (hsplits : Splits valid config.looseness) (levels : Nat)
    (entities : List (SpatialEntity R)) {node : QuadtreeNode R} (hplaced : WellPlaced valid node)
    (hdepth : node.depth ≤ levels)
    (hentities : ∀ entity ∈ entities, node.looseBounds.containsBox entity.bounds = true) :
    ∃ node', entities.foldlM (insert config levels) node = .ok node' ∧
      node'.members.Perm (entities ++ node.members) ∧ WellPlaced valid node' ∧
      node'.depth ≤ levels := by
  induction entities generalizing node with
  | nil => exact ⟨node, rfl, List.Perm.refl _, hplaced, hdepth⟩
  | cons entity entities ih =>
    obtain ⟨hentity, hlater⟩ := List.forall_mem_cons.mp hentities
    obtain ⟨next, hnext, hinserted⟩ := insert_spec hsplits levels node entity hplaced hdepth hentity
    rw [← hinserted.looseBounds] at hlater
    obtain ⟨final, hfinal, hmembers, hrest⟩ := ih hinserted.placed hinserted.depth hlater
    refine ⟨final, ?_, ?_, hrest⟩
    · rw [List.foldlM_cons, hnext]
      exact hfinal
    · exact hmembers.trans ((hinserted.members.append_left entities).trans List.perm_middle)

end Insertion

end Trees

end QuadtreeNode

/-! ## Exact numbers -/

section Exact

variable {K : Type} [Field K] [LinearOrder K] [FloorRing K] [SquareRoot K]

theorem extended_le_trans {a b c : Extended K} (hab : a ≤ b) (hbc : b ≤ c) : a ≤ c := by
  cases a with
  | infinite =>
    cases b with
    | infinite => exact hbc
    | finite b => cases hab
    | minusInfinite => cases hab
  | minusInfinite => cases c <;> rfl
  | finite a =>
    cases c with
    | infinite => rfl
    | minusInfinite =>
      cases b with
      | infinite => cases hbc
      | finite b => cases hbc
      | minusInfinite => cases hab
    | finite c =>
      cases b with
      | infinite => cases hbc
      | minusInfinite => cases hab
      | finite b =>
        exact Extended.finite_le.mpr ((Extended.finite_le.mp hab).trans (Extended.finite_le.mp hbc))

namespace Aabb2

theorem contains_iff {box : Aabb2 (Extended K)} {point : Vec2 (Extended K)} :
    box.contains point = true ↔ point.isFinite = true ∧
      (box.minimum.x ≤ point.x ∧ point.x ≤ box.maximum.x) ∧
        box.minimum.z ≤ point.z ∧ point.z ≤ box.maximum.z := by
  simp only [contains, Bool.and_eq_true, decide_eq_true_eq]
  tauto

theorem containsBox_iff {box inner : Aabb2 (Extended K)} :
    box.containsBox inner = true ↔
      box.contains inner.minimum = true ∧ box.contains inner.maximum = true :=
  Bool.and_eq_true_iff

/-- A box meets what a box within it meets. -/
theorem containsBox_intersects (other : Aabb2 (Extended K)) {box inner : Aabb2 (Extended K)}
    (hinner : box.containsBox inner = true) (h : inner.intersects other = true) :
    box.intersects other = true := by
  obtain ⟨hminimum, hmaximum⟩ := containsBox_iff.mp hinner
  obtain ⟨-, ⟨hleft, -⟩, hbottom, -⟩ := contains_iff.mp hminimum
  obtain ⟨-, ⟨-, hright⟩, -, htop⟩ := contains_iff.mp hmaximum
  simp only [intersects, Bool.and_eq_true, decide_eq_true_eq] at h ⊢
  obtain ⟨⟨⟨hfirst, hsecond⟩, hthird⟩, hfourth⟩ := h
  exact ⟨⟨⟨extended_le_trans hleft hfirst, extended_le_trans hsecond hright⟩,
    extended_le_trans hbottom hthird⟩, extended_le_trans hfourth htop⟩

/-- A box with wider bounds holds what the box holds. -/
theorem contains_widen {box wide : Aabb2 (Extended K)} (point : Vec2 (Extended K))
    (hx : wide.minimum.x ≤ box.minimum.x ∧ box.maximum.x ≤ wide.maximum.x)
    (hz : wide.minimum.z ≤ box.minimum.z ∧ box.maximum.z ≤ wide.maximum.z)
    (h : box.contains point = true) : wide.contains point = true := by
  obtain ⟨hfinite, ⟨hfirst, hsecond⟩, hthird, hfourth⟩ := contains_iff.mp h
  exact contains_iff.mpr ⟨hfinite,
    ⟨extended_le_trans hx.1 hfirst, extended_le_trans hsecond hx.2⟩,
    extended_le_trans hz.1 hthird, extended_le_trans hfourth hz.2⟩

/-- A box holds the points of a box within it. -/
theorem containsBox_contains (point : Vec2 (Extended K)) {box inner : Aabb2 (Extended K)}
    (hinner : box.containsBox inner = true) (h : inner.contains point = true) :
    box.contains point = true := by
  obtain ⟨hminimum, hmaximum⟩ := containsBox_iff.mp hinner
  obtain ⟨-, ⟨hleft, -⟩, hbottom, -⟩ := contains_iff.mp hminimum
  obtain ⟨-, ⟨-, hright⟩, -, htop⟩ := contains_iff.mp hmaximum
  exact contains_widen point ⟨hleft, hright⟩ ⟨hbottom, htop⟩ h

/-- Boxes are created from finite corners in order. -/
theorem create_eq_ok {minimum maximum : Vec2 (Extended K)} {box : Aabb2 (Extended K)} :
    create minimum maximum = .ok box ↔ box = ⟨minimum, maximum⟩ ∧ ∃ x z x' z' : K,
      minimum = ⟨.finite x, .finite z⟩ ∧ maximum = ⟨.finite x', .finite z'⟩ ∧ x ≤ x' ∧ z ≤ z' := by
  unfold create
  rw [throwIf_bind_eq_ok]
  simp only [Bool.or_eq_false_iff, Bool.not_eq_false', decide_eq_false_iff_not]
  constructor
  · rintro ⟨⟨⟨⟨hminimum, hmaximum⟩, hx⟩, hz⟩, h⟩
    obtain rfl := Except.ok.inj h
    obtain ⟨x, z, rfl⟩ := Vec2.isFinite_iff.mp hminimum
    obtain ⟨x', z', rfl⟩ := Vec2.isFinite_iff.mp hmaximum
    exact ⟨rfl, x, z, x', z', rfl, rfl, not_lt.mp (Extended.finite_lt.not.mp hx),
      not_lt.mp (Extended.finite_lt.not.mp hz)⟩
  · rintro ⟨rfl, x, z, x', z', rfl, rfl, hx, hz⟩
    exact ⟨⟨⟨⟨Vec2.isFinite_finite x z, Vec2.isFinite_finite x' z'⟩,
      Extended.finite_lt.not.mpr (not_lt.mpr hx)⟩, Extended.finite_lt.not.mpr (not_lt.mpr hz)⟩, rfl⟩

/-- A box as `create` makes them. -/
def IsValid (box : Aabb2 (Extended K)) : Prop :=
  ∃ minimum maximum, create minimum maximum = .ok box

theorem isValid_finite {x z x' z' : K} (hx : x ≤ x') (hz : z ≤ z') :
    create ⟨Extended.finite x, .finite z⟩ ⟨Extended.finite x', .finite z'⟩ =
      .ok ⟨⟨.finite x, .finite z⟩, ⟨.finite x', .finite z'⟩⟩ :=
  create_eq_ok.mpr ⟨rfl, x, z, x', z', rfl, rfl, hx, hz⟩

end Aabb2

section Ordered

variable [IsStrictOrderedRing K]

/-- Loose bounds exist and hold the box, where the looseness is one at least. -/
theorem makeLooseBounds_contains {x z x' z' looseness : K} (hx : x ≤ x') (hz : z ≤ z')
    (hlooseness : 1 ≤ looseness) :
    ∃ loose, makeLooseBounds (⟨⟨.finite x, .finite z⟩, ⟨.finite x', .finite z'⟩⟩ :
        Aabb2 (Extended K)) (.finite looseness) = .ok loose ∧
      ∀ inner : Aabb2 (Extended K), (⟨⟨.finite x, .finite z⟩, ⟨.finite x', .finite z'⟩⟩ :
        Aabb2 (Extended K)).containsBox inner = true → loose.containsBox inner = true := by
  have hspread {low high : K} (h : low ≤ high) :
      (low + high) * 0.5 - (high - low) * (0.5 * looseness) ≤ low ∧
        high ≤ (low + high) * 0.5 + (high - low) * (0.5 * looseness) := by
    have hhalf : (high - low) * (0.5 * 1) ≤ (high - low) * (0.5 * looseness) :=
      mul_le_mul_of_nonneg_left (mul_le_mul_of_nonneg_left hlooseness (by norm_num))
        (sub_nonneg.mpr h)
    constructor <;> norm_num at hhalf ⊢ <;> linarith
  obtain ⟨hxlow, hxhigh⟩ := hspread hx
  obtain ⟨hzlow, hzhigh⟩ := hspread hz
  refine ⟨_, Aabb2.isValid_finite (hxlow.trans (hx.trans hxhigh)) (hzlow.trans (hz.trans hzhigh)),
    fun inner hinner => ?_⟩
  obtain ⟨hminimum, hmaximum⟩ := Aabb2.containsBox_iff.mp hinner
  have hxwide := And.intro (Extended.finite_le.mpr hxlow) (Extended.finite_le.mpr hxhigh)
  have hzwide := And.intro (Extended.finite_le.mpr hzlow) (Extended.finite_le.mpr hzhigh)
  exact Aabb2.containsBox_iff.mpr ⟨Aabb2.contains_widen _ hxwide hzwide hminimum,
    Aabb2.contains_widen _ hxwide hzwide hmaximum⟩

theorem createNode_fresh {box : Aabb2 (Extended K)} {looseness : K} (hbox : box.IsValid)
    (hlooseness : 1 ≤ looseness) :
    ∃ node, QuadtreeNode.create box (.finite looseness) = .ok node ∧
      QuadtreeNode.Fresh Aabb2.IsValid node ∧
      ∀ inner, box.containsBox inner = true → node.looseBounds.containsBox inner = true := by
  obtain ⟨minimum, maximum, hcreated⟩ := hbox
  obtain ⟨rfl, x, z, x', z', rfl, rfl, hx, hz⟩ := Aabb2.create_eq_ok.mp hcreated
  obtain ⟨loose, hloose, hholds⟩ := makeLooseBounds_contains hx hz hlooseness
  refine ⟨.leaf _ loose [], ?_, ⟨.leaf ⟨_, _, hcreated⟩ nofun, rfl, rfl⟩, hholds⟩
  rw [QuadtreeNode.create, hloose]
  rfl

/-- Over exact numbers every node can be split. -/
theorem createChildren_splits {looseness : K} (hlooseness : 1 ≤ looseness) :
    QuadtreeNode.Splits (R := Extended K) Aabb2.IsValid (.finite looseness) := by
  rintro tight ⟨minimum, maximum, hcreated⟩
  obtain ⟨rfl, x, z, x', z', rfl, rfl, hx, hz⟩ := Aabb2.create_eq_ok.mp hcreated
  have hcenter {low high : K} (h : low ≤ high) :
      low ≤ (low + high) * 0.5 ∧ (low + high) * 0.5 ≤ high := by
    constructor <;> norm_num <;> linarith
  obtain ⟨hxlow, hxhigh⟩ := hcenter hx
  obtain ⟨hzlow, hzhigh⟩ := hcenter hz
  have hfirstBounds := Aabb2.isValid_finite hxlow hzlow
  have hsecondBounds := Aabb2.isValid_finite hxhigh hzlow
  have hthirdBounds := Aabb2.isValid_finite hxlow hzhigh
  have hfourthBounds := Aabb2.isValid_finite hxhigh hzhigh
  obtain ⟨first, hfirst, hfresh₁, -⟩ := createNode_fresh ⟨_, _, hfirstBounds⟩ hlooseness
  obtain ⟨second, hsecond, hfresh₂, -⟩ := createNode_fresh ⟨_, _, hsecondBounds⟩ hlooseness
  obtain ⟨third, hthird, hfresh₃, -⟩ := createNode_fresh ⟨_, _, hthirdBounds⟩ hlooseness
  obtain ⟨fourth, hfourth, hfresh₄, -⟩ := createNode_fresh ⟨_, _, hfourthBounds⟩ hlooseness
  refine ⟨first, second, third, fourth, ?_, hfresh₁, hfresh₂, hfresh₃, hfresh₄⟩
  unfold QuadtreeNode.createChildren
  refine except_bind_eq_ok.mpr ⟨_, hfirstBounds, ?_⟩
  refine except_bind_eq_ok.mpr ⟨_, hsecondBounds, ?_⟩
  refine except_bind_eq_ok.mpr ⟨_, hthirdBounds, ?_⟩
  refine except_bind_eq_ok.mpr ⟨_, hfourthBounds, ?_⟩
  rw [hfirst, hsecond, hthird, hfourth]
  rfl

/-! ## The two indices -/

theorem validateAndSortEntities_eq_ok {R : Type} [Scalar R]
    {entities sorted : List (SpatialEntity R)}
    (h : validateAndSortEntities entities = .ok sorted) :
    sorted.Perm entities ∧ Ascending SpatialEntity.id sorted := by
  obtain ⟨-, h⟩ := throwIf_bind_eq_ok.mp h
  obtain ⟨hduplicate, h⟩ := throwIf_bind_eq_ok.mp h
  obtain rfl := Except.ok.inj h
  exact ⟨sortByKey_perm entities,
    ascending_of_pairwise_le (sortByKey_pairwise entities) hduplicate⟩

/-- The answer of a pruned search, sorted, is that of a look at every entity. -/
theorem sorted_search_eq {R : Type} [Scalar R] {valid : Aabb2 R → Prop} {passes : Aabb2 R → Bool}
    (hpasses : ∀ box inner : Aabb2 R, box.containsBox inner = true → passes inner = true →
      passes box = true) {tree : QuadtreeNode R} {sorted : List (SpatialEntity R)}
    (hplaced : tree.WellPlaced valid) (hmembers : tree.members.Perm sorted)
    (hsorted : Ascending SpatialEntity.id sorted) :
    unique (sortByKey id (tree.search passes)) =
        (sorted.filter fun entity => passes entity.bounds).map SpatialEntity.id ∧
      Ascending id ((sorted.filter fun entity => passes entity.bounds).map SpatialEntity.id) := by
  have hids : Ascending id
      ((sorted.filter fun entity => passes entity.bounds).map SpatialEntity.id) :=
    ascending_map.mpr (hsorted.sublist List.filter_sublist)
  refine ⟨(ascending_unique (sortByKey_pairwise _)).ext hids fun answer => ?_, hids⟩
  rw [mem_unique, (sortByKey_perm _).mem_iff, hplaced.search_eq hpasses]
  exact ((hmembers.filter _).map _).mem_iff

/-- What the constructor asks of a configuration. -/
def LooseQuadtreeConfig.Valid (config : LooseQuadtreeConfig (Extended K)) : Prop :=
  (∃ looseness : K, config.looseness = .finite looseness ∧ 1 ≤ looseness) ∧
    config.nodeCapacity ≠ 0 ∧ config.maximumDepth ≠ 0

theorem config_valid_iff {config : LooseQuadtreeConfig (Extended K)} {x z x' z' : K} :
    (!Scalar.isFinite config.looseness || decide (config.looseness < 1.0) ||
      config.nodeCapacity == 0 || config.maximumDepth == 0 ||
      decide (Extended.finite (x' - x) ≤ 0) || decide (Extended.finite (z' - z) ≤ 0)) = false ↔
      config.Valid ∧ x < x' ∧ z < z' := by
  have hone : (1.0 : Extended K) = .finite 1 := by
    show Extended.finite (1.0 : K) = .finite 1
    norm_num
  have hpositive {low high : K} : ¬Extended.finite (high - low) ≤ 0 ↔ low < high := by
    rw [Extended.zero_eq, Extended.finite_le, not_le, sub_pos]
  simp only [Bool.or_eq_false_iff, Bool.not_eq_false', decide_eq_false_iff_not,
    beq_eq_false_iff_ne, hone, hpositive]
  unfold LooseQuadtreeConfig.Valid
  cases hlooseness : config.looseness with
  | infinite =>
    refine iff_of_false ?_ ?_
    · rintro ⟨⟨⟨⟨⟨hfinite, -⟩, -⟩, -⟩, -⟩, -⟩
      cases hfinite
    · rintro ⟨⟨⟨looseness, h, -⟩, -⟩, -⟩
      cases h
  | minusInfinite =>
    refine iff_of_false ?_ ?_
    · rintro ⟨⟨⟨⟨⟨hfinite, -⟩, -⟩, -⟩, -⟩, -⟩
      cases hfinite
    · rintro ⟨⟨⟨looseness, h, -⟩, -⟩, -⟩
      cases h
  | finite looseness =>
    rw [Extended.finite_lt, not_lt]
    constructor
    · rintro ⟨⟨⟨⟨⟨-, hle⟩, hcapacity⟩, hdepth⟩, hx⟩, hz⟩
      exact ⟨⟨⟨looseness, rfl, hle⟩, hcapacity, hdepth⟩, hx, hz⟩
    · rintro ⟨⟨⟨same, hsame, hle⟩, hcapacity, hdepth⟩, hx, hz⟩
      cases hsame
      exact ⟨⟨⟨⟨⟨Extended.isFinite_finite, hle⟩, hcapacity⟩, hdepth⟩, hx⟩, hz⟩

/-- The tree of some entities. -/
def QuadtreeNode.ofEntities (worldBounds : Aabb2 (Extended K))
    (config : LooseQuadtreeConfig (Extended K)) (sorted : List (SpatialEntity (Extended K))) :
    Except Exception (QuadtreeNode (Extended K)) := do
  let root ← QuadtreeNode.create worldBounds config.looseness
  sorted.foldlM (QuadtreeNode.insert config config.maximumDepth) root

theorem ofEntities_spec {worldBounds : Aabb2 (Extended K)} (hworld : worldBounds.IsValid)
    {config : LooseQuadtreeConfig (Extended K)} (hvalid : config.Valid)
    {sorted : List (SpatialEntity (Extended K))}
    (hwithin : ∀ entity ∈ sorted, worldBounds.containsBox entity.bounds = true) :
    ∃ tree, QuadtreeNode.ofEntities worldBounds config sorted = .ok tree ∧
      tree.members.Perm sorted ∧ tree.WellPlaced Aabb2.IsValid ∧
      tree.depth ≤ config.maximumDepth := by
  obtain ⟨⟨looseness, hlooseness, hle⟩, -⟩ := hvalid
  obtain ⟨root, hroot, hfresh, hholds⟩ := createNode_fresh hworld hle
  have hsplits : QuadtreeNode.Splits (R := Extended K) Aabb2.IsValid config.looseness := by
    rw [hlooseness]
    exact createChildren_splits hle
  obtain ⟨tree, htree, hmembers, hrest⟩ := QuadtreeNode.insertAll_spec hsplits
    config.maximumDepth sorted hfresh.placed (by rw [hfresh.depth]; exact Nat.zero_le _)
    fun entity hentity => hholds _ (hwithin entity hentity)
  rw [hfresh.members, List.append_nil] at hmembers
  refine ⟨tree, ?_, hmembers, hrest⟩
  rw [QuadtreeNode.ofEntities, hlooseness, hroot]
  exact htree

/-- When the constructor returns a tree. -/
theorem looseQuadtree_eq_ok {worldBounds : Aabb2 (Extended K)} (hworld : worldBounds.IsValid)
    {entities : List (SpatialEntity (Extended K))} {config : LooseQuadtreeConfig (Extended K)}
    {tree : QuadtreeNode (Extended K)} :
    looseQuadtree worldBounds entities config = .ok tree ↔
      ∃ sorted, validateAndSortEntities entities = .ok sorted ∧
        (config.Valid ∧ worldBounds.minimum.x < worldBounds.maximum.x ∧
          worldBounds.minimum.z < worldBounds.maximum.z) ∧
        (∀ entity ∈ sorted, worldBounds.containsBox entity.bounds = true) ∧
        QuadtreeNode.ofEntities worldBounds config sorted = .ok tree := by
  obtain ⟨minimum, maximum, hcreated⟩ := hworld
  obtain ⟨rfl, x, z, x', z', rfl, rfl, -, -⟩ := Aabb2.create_eq_ok.mp hcreated
  unfold looseQuadtree
  rw [except_bind_eq_ok]
  refine exists_congr fun sorted => and_congr_right fun _ => ?_
  dsimp only
  rw [throwIf_bind_eq_ok, throwIf_bind_eq_ok, Extended.finite_lt, Extended.finite_lt]
  refine and_congr config_valid_iff (and_congr ?_ Iff.rfl)
  rw [Bool.not_eq_false', List.all_eq_true]

/-- The quadtree answers every query as the linear index does, and the constructor returns
whenever its arguments pass its tests. -/
theorem looseQuadtree_agrees {worldBounds : Aabb2 (Extended K)} (hworld : worldBounds.IsValid)
    (entities : List (SpatialEntity (Extended K))) (config : LooseQuadtreeConfig (Extended K)) :
    ((∃ tree, looseQuadtree worldBounds entities config = .ok tree) ↔
      (∃ index, LinearSpatialIndex.create entities = .ok index) ∧ config.Valid ∧
        worldBounds.minimum.x < worldBounds.maximum.x ∧
        worldBounds.minimum.z < worldBounds.maximum.z ∧
        ∀ entity ∈ entities, worldBounds.containsBox entity.bounds = true) ∧
      ∀ tree, looseQuadtree worldBounds entities config = .ok tree →
        ∃ index, LinearSpatialIndex.create entities = .ok index ∧
          tree.depth ≤ config.maximumDepth ∧
          (∀ bounds, queryAabb tree bounds = index.queryAabb bounds ∧
            Ascending id (queryAabb tree bounds)) ∧
          ∀ point, pickPoint tree point = index.pickPoint point ∧
            ∀ ids, pickPoint tree point = .ok ids → Ascending id ids := by
  constructor
  · constructor
    · rintro ⟨tree, htree⟩
      obtain ⟨sorted, hsorted, ⟨hvalid, hx, hz⟩, hwithin, -⟩ :=
        (looseQuadtree_eq_ok hworld).mp htree
      obtain ⟨hperm, -⟩ := validateAndSortEntities_eq_ok hsorted
      refine ⟨⟨⟨sorted⟩, by rw [LinearSpatialIndex.create, hsorted]; rfl⟩, hvalid, hx, hz, ?_⟩
      exact fun entity hentity => hwithin entity (hperm.mem_iff.mpr hentity)
    · rintro ⟨⟨index, hindex⟩, hvalid, hx, hz, hwithin⟩
      obtain ⟨sorted, hsorted, -⟩ := except_bind_eq_ok.mp hindex
      obtain ⟨hperm, -⟩ := validateAndSortEntities_eq_ok hsorted
      have hinside : ∀ entity ∈ sorted, worldBounds.containsBox entity.bounds = true :=
        fun entity hentity => hwithin entity (hperm.mem_iff.mp hentity)
      obtain ⟨tree, htree, -⟩ := ofEntities_spec hworld hvalid hinside
      exact ⟨tree, (looseQuadtree_eq_ok hworld).mpr
        ⟨sorted, hsorted, ⟨hvalid, hx, hz⟩, hinside, htree⟩⟩
  · intro tree htree
    obtain ⟨sorted, hsorted, ⟨hvalid, -⟩, hwithin, hbuilt⟩ := (looseQuadtree_eq_ok hworld).mp htree
    obtain ⟨same, hsame, hmembers, hplaced, hdepth⟩ := ofEntities_spec hworld hvalid hwithin
    obtain rfl := Except.ok.inj (hbuilt.symm.trans hsame)
    obtain ⟨-, hascending⟩ := validateAndSortEntities_eq_ok hsorted
    refine ⟨⟨sorted⟩, by rw [LinearSpatialIndex.create, hsorted]; rfl, hdepth, fun bounds => ?_,
      fun point => ?_⟩
    · obtain ⟨hanswer, hids⟩ := sorted_search_eq
        (fun _ _ => Aabb2.containsBox_intersects bounds) hplaced hmembers hascending
      rw [← hanswer] at hids
      rw [queryAabb, QuadtreeNode.queryAabb_eq_search]
      exact ⟨hanswer, hids⟩
    · obtain ⟨hanswer, hids⟩ := sorted_search_eq
        (fun _ _ => Aabb2.containsBox_contains point) hplaced hmembers hascending
      rw [← hanswer] at hids
      have hpick : pickPoint tree point = LinearSpatialIndex.pickPoint ⟨sorted⟩ point := by
        rw [pickPoint, LinearSpatialIndex.pickPoint, QuadtreeNode.pickPoint_eq_search, hanswer]
      refine ⟨hpick, fun ids hpicked => ?_⟩
      obtain ⟨-, hpicked⟩ := throwIf_bind_eq_ok.mp hpicked
      obtain rfl := Except.ok.inj hpicked
      rw [QuadtreeNode.pickPoint_eq_search]
      exact hids

end Ordered

/-! ## Entities at one place -/

def unitBox : Aabb2 (Extended ℚ) :=
  ⟨⟨.finite 1, .finite 1⟩, ⟨.finite 2, .finite 2⟩⟩

def coincident : List (SpatialEntity (Extended ℚ)) :=
  [⟨3, unitBox⟩, ⟨1, unitBox⟩, ⟨2, unitBox⟩]

theorem looseQuadtree_agrees_coincident :
    ∃ tree index, looseQuadtree (⟨⟨.finite 0, .finite 0⟩, ⟨.finite 8, .finite 8⟩⟩ :
        Aabb2 (Extended ℚ)) coincident { nodeCapacity := 1, maximumDepth := 3 } = .ok tree ∧
      LinearSpatialIndex.create coincident = .ok index ∧
      ∀ bounds, queryAabb tree bounds = index.queryAabb bounds := by
  have hworld : Aabb2.IsValid (⟨⟨.finite 0, .finite 0⟩, ⟨.finite 8, .finite 8⟩⟩ :
      Aabb2 (Extended ℚ)) := ⟨_, _, Aabb2.isValid_finite (by decide) (by decide)⟩
  obtain ⟨hreturns, hagrees⟩ := looseQuadtree_agrees hworld coincident
    { nodeCapacity := 1, maximumDepth := 3 }
  have hcreated : (LinearSpatialIndex.create coincident).toOption.isSome = true := by
    decide +kernel
  obtain ⟨tree, htree⟩ := hreturns.mpr ⟨⟨_, except_eq_ok_get hcreated⟩,
    ⟨⟨1.5, rfl, by norm_num⟩, by decide, by decide⟩, by decide +kernel, by decide +kernel,
    by decide +kernel⟩
  obtain ⟨index, hindex, -, hquery, -⟩ := hagrees tree htree
  exact ⟨tree, index, htree, hindex, fun bounds => (hquery bounds).1⟩

end Exact

end SurvivalArena
