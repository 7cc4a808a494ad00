import SurvivalArena.Replication.ReplicatorStep
import SurvivalArena.Simulation.SpatialAgreement

/-!
# What an interest query reports

The cells of a rebuilt grid hold every entity in the cell of its position.  Over exact
numbers the cells a query walks hold everything within the leave radius, so a query
reports what a look at every entity would.
-/

namespace SurvivalArena

open KeyedList

namespace InterestGrid

section Cells

variable {R : Type} [Scalar R] {κ : Type}

/-- The entries of the items in a cell. -/
def bucket (grid : InterestGrid R) (index : Nat) (items : List (GridItem κ R)) :
    List (GridEntry κ R) :=
  (items.filter fun item => grid.cellIndex item.position == index).map GridItem.toGridEntry

theorem bucket_cons (grid : InterestGrid R) (index : Nat) (item : GridItem κ R)
    (items : List (GridItem κ R)) :
    grid.bucket index (item :: items) =
      (if grid.cellIndex item.position = index then [item.toGridEntry] else []) ++
        grid.bucket index items := by
  rw [bucket, List.filter_cons]
  split
  next h => rw [if_pos (eq_of_beq h)]; rfl
  next h => rw [if_neg fun heq => h (beq_iff_eq.mpr heq)]; rfl

theorem mem_bucket {grid : InterestGrid R} {index : Nat} {items : List (GridItem κ R)}
    {entry : GridEntry κ R} :
    entry ∈ grid.bucket index items ↔
      ∃ item ∈ items, grid.cellIndex item.position = index ∧ item.toGridEntry = entry := by
  simp only [bucket, List.mem_map, List.mem_filter, beq_iff_eq, and_assoc]

theorem getElem?_pushActors (grid : InterestGrid R) (actors : List (GridItem EntityId R))
    (cells : List (GridCell R)) (index : Nat) :
    (actors.foldl grid.pushActor cells)[index]? =
      cells[index]?.map fun cell =>
        { cell with actors := cell.actors ++ grid.bucket index actors } := by
  induction actors generalizing cells with
  | nil => simp [bucket]
  | cons actor actors ih =>
    rw [List.foldl_cons, ih, pushActor, List.getElem?_modify, bucket_cons]
    cases cells[index]? with
    | none => rfl
    | some cell => by_cases h : grid.cellIndex actor.position = index <;> simp [h]

theorem getElem?_pushLoot (grid : InterestGrid R) (loot : List (GridItem UInt32 R))
    (cells : List (GridCell R)) (index : Nat) :
    (loot.foldl grid.pushLoot cells)[index]? =
      cells[index]?.map fun cell =>
        { cell with loot := cell.loot ++ grid.bucket index (loot.filter (·.active)) } := by
  induction loot generalizing cells with
  | nil => simp [bucket]
  | cons item loot ih =>
    rw [List.foldl_cons, ih, pushLoot, List.filter_cons]
    split
    · rw [List.getElem?_modify, bucket_cons]
      cases cells[index]? with
      | none => rfl
      | some cell => by_cases h : grid.cellIndex item.position = index <;> simp [h]
    · rfl

theorem contains_isFinite {box : Aabb2 R} {point : Vec2 R} (h : box.contains point = true) :
    point.isFinite = true := by
  simp only [Aabb2.contains, Bool.and_eq_true] at h
  exact h.1.1.1.1

theorem length_foldl {α β : Type} {step : List α → β → List α}
    (hstep : ∀ l b, (step l b).length = l.length) (items : List β) (l : List α) :
    (items.foldl step l).length = l.length := by
  induction items generalizing l with
  | nil => rfl
  | cons item items ih => rw [List.foldl_cons, ih, hstep]

theorem length_pushActor (grid : InterestGrid R) (cells : List (GridCell R))
    (actor : GridItem EntityId R) : (grid.pushActor cells actor).length = cells.length :=
  List.length_modify _ _ _

theorem length_pushLoot (grid : InterestGrid R) (cells : List (GridCell R))
    (loot : GridItem UInt32 R) : (grid.pushLoot cells loot).length = cells.length := by
  unfold pushLoot
  split
  · exact List.length_modify _ _ _
  · rfl

theorem checkPositions_eq_ok {grid : InterestGrid R} {kind : String}
    {items : List (GridItem κ R)} :
    grid.checkPositions kind items = .ok () ↔
      ∀ item ∈ items, grid.bounds.contains item.position = true := by
  induction items with
  | nil => exact iff_of_true rfl nofun
  | cons item items ih =>
    rw [checkPositions, List.forM_eq_forM, List.forM_cons, List.forall_mem_cons, ← ih,
      except_bind_eq_ok]
    simp only [throwIf_bind_eq_ok, throwIf_eq_ok, Bool.not_eq_false']
    constructor
    · rintro ⟨-, ⟨-, hcontains⟩, hlater⟩
      exact ⟨hcontains, hlater⟩
    · rintro ⟨hcontains, hlater⟩
      exact ⟨(), ⟨contains_isFinite hcontains, hcontains⟩, hlater⟩

/-- What a rebuild asks of a world. -/
structure Fits (bounds : Aabb2 R) (actors : List (GridItem EntityId R))
    (loot : List (GridItem UInt32 R)) : Prop where
  actorCount : actors.length ≤ maxSnapshotActors
  lootCount : loot.length ≤ maxSnapshotLoot
  actorIds : (actors.map (·.id)).Nodup
  lootIds : (loot.map (·.id)).Nodup
  actorsInside : ∀ actor ∈ actors, bounds.contains actor.position = true
  lootInside : ∀ item ∈ loot, bounds.contains item.position = true

/-- The cells hold the world, each entity in the cell of its position. -/
structure Holds (grid : InterestGrid R) (actors : List (GridItem EntityId R))
    (loot : List (GridItem UInt32 R)) : Prop where
  actors : ∀ index < grid.cells.length,
    List.Perm (grid.cells.getD index {}).actors (grid.bucket index actors)
  loot : ∀ index < grid.cells.length,
    List.Perm (grid.cells.getD index {}).loot (grid.bucket index (loot.filter (·.active)))

theorem hasDuplicateIds_eq_false {α ι : Type} [LinearOrder ι] {key : α → ι} {values : List α} :
    hasDuplicateIds key values = false ↔ (values.map key).Nodup := by
  rw [hasDuplicateIds, hasAdjacentDuplicate_sortByKey, List.map_id]

theorem rebuild_eq_ok {grid rebuilt : InterestGrid R} {actors : List (GridItem EntityId R)}
    {loot : List (GridItem UInt32 R)} :
    grid.rebuild actors loot = .ok rebuilt ↔ Fits grid.bounds actors loot ∧
      rebuilt = { grid with cells := (loot.foldl grid.pushLoot (actors.foldl grid.pushActor
        (List.replicate grid.cells.length {}))).map sortCell } := by
  unfold rebuild
  simp only [except_bind_eq_ok, throwIf_eq_ok, Bool.or_eq_false_iff,
    decide_eq_false_iff_not, not_lt, hasDuplicateIds_eq_false]
  constructor
  · rintro ⟨_, ⟨hactorCount, hlootCount⟩, _, ⟨hactorIds, hlootIds⟩, _, hactors, _, hloot, h⟩
    exact ⟨⟨hactorCount, hlootCount, hactorIds, hlootIds, checkPositions_eq_ok.mp hactors,
      checkPositions_eq_ok.mp hloot⟩, (Except.ok.inj h).symm⟩
  · rintro ⟨hfits, rfl⟩
    exact ⟨(), ⟨hfits.actorCount, hfits.lootCount⟩, (), ⟨hfits.actorIds, hfits.lootIds⟩, (),
      checkPositions_eq_ok.mpr hfits.actorsInside, (),
      checkPositions_eq_ok.mpr hfits.lootInside, rfl⟩

/-- A rebuild changes the cells only, and they hold the world. -/
theorem rebuild_holds {grid rebuilt : InterestGrid R} {actors : List (GridItem EntityId R)}
    {loot : List (GridItem UInt32 R)} (h : grid.rebuild actors loot = .ok rebuilt) :
    rebuilt = { grid with cells := rebuilt.cells } ∧
      rebuilt.cells.length = grid.cells.length ∧ rebuilt.Holds actors loot := by
  obtain ⟨-, rfl⟩ := rebuild_eq_ok.mp h
  have hlength : ((loot.foldl grid.pushLoot (actors.foldl grid.pushActor
      (List.replicate grid.cells.length {}))).map sortCell).length = grid.cells.length := by
    rw [List.length_map, length_foldl grid.length_pushLoot, length_foldl grid.length_pushActor,
      List.length_replicate]
  refine ⟨rfl, hlength, ?_⟩
  have hcell (index : Nat) (hindex : index < grid.cells.length) :
      (loot.foldl grid.pushLoot (actors.foldl grid.pushActor
          (List.replicate grid.cells.length {})))[index]? =
        some { actors := grid.bucket index actors
               loot := grid.bucket index (loot.filter (·.active)) } := by
    rw [getElem?_pushLoot, getElem?_pushActors, List.getElem?_replicate, if_pos hindex]
    rfl
  have hsorted (index : Nat) (hindex : index < grid.cells.length) :
      ((loot.foldl grid.pushLoot (actors.foldl grid.pushActor
          (List.replicate grid.cells.length {}))).map sortCell).getD index {} =
        sortCell { actors := grid.bucket index actors
                   loot := grid.bucket index (loot.filter (·.active)) } := by
    rw [List.getD_eq_getElem?_getD, List.getElem?_map, hcell index hindex]
    rfl
  constructor <;> intro index hindex
  · rw [hsorted index (hlength ▸ hindex)]
    exact sortByKey_perm _
  · rw [hsorted index (hlength ▸ hindex)]
    exact sortByKey_perm _

end Cells

/-- The grids over some bounds, whatever worlds they were rebuilt for. -/
inductive Built {R : Type} [Scalar R] (bounds : Aabb2 R) (cellSize : R) : InterestGrid R → Prop
  | create {grid : InterestGrid R} (hgrid : create bounds cellSize = .ok grid) :
    Built bounds cellSize grid
  | rebuild {grid rebuilt : InterestGrid R} {actors : List (GridItem EntityId R)}
    {loot : List (GridItem UInt32 R)} (hgrid : Built bounds cellSize grid)
    (hrebuild : grid.rebuild actors loot = .ok rebuilt) : Built bounds cellSize rebuilt

/-- Near enough to be reported: within the leave radius for what was reported before, and
within the enter radius for the rest. -/
def Near {R κ : Type} [Scalar R] [LinearOrder κ] (previous : List κ) (center : Vec2 R)
    (enterRadius leaveRadius : R) (entry : GridEntry κ R) : Prop :=
  (entry.position - center).lengthSquared ≤
    if entry.id ∈ previous then leaveRadius * leaveRadius else enterRadius * enterRadius

/-- What a query asks of its arguments. -/
structure ValidQuery {R : Type} [Scalar R] (bounds : Aabb2 R) (previous : VisibleSet)
    (center : Vec2 R) (enterRadius leaveRadius : R) : Prop where
  actors : Ascending id previous.actors
  loot : Ascending id previous.loot
  enterFinite : Scalar.isFinite enterRadius = true
  leaveFinite : Scalar.isFinite leaveRadius = true
  positive : ¬enterRadius ≤ 0
  ordered : ¬leaveRadius < enterRadius
  center : bounds.contains center = true

theorem validatePreviousIds_eq_ok {κ : Type} [LinearOrder κ] {ids : List κ} {u : Unit} :
    validatePreviousIds ids = .ok u ↔ Ascending id ids := by
  rw [validatePreviousIds, throwIf_eq_ok, Bool.or_eq_false_iff, Bool.not_eq_false',
    decide_eq_true_eq]
  constructor
  · rintro ⟨hsorted, hduplicate⟩
    exact ascending_of_pairwise_le hsorted hduplicate
  · intro h
    exact ⟨h.pairwise_le, h.hasAdjacentDuplicate_eq_false⟩

theorem updateVisibility_eq_ok {R : Type} [Scalar R] {grid : InterestGrid R}
    {previous visible : VisibleSet} {center : Vec2 R} {enterRadius leaveRadius : R} :
    grid.updateVisibility previous center enterRadius leaveRadius = .ok visible ↔
      ValidQuery grid.bounds previous center enterRadius leaveRadius ∧ visible =
        { actors := sortAndDeduplicate ((grid.queryCells center leaveRadius).flatMap fun cell =>
            visibleEntries previous.actors center (enterRadius * enterRadius)
              (leaveRadius * leaveRadius) cell.actors)
          loot := sortAndDeduplicate ((grid.queryCells center leaveRadius).flatMap fun cell =>
            visibleEntries previous.loot center (enterRadius * enterRadius)
              (leaveRadius * leaveRadius) cell.loot) } := by
  unfold updateVisibility
  simp only [except_bind_eq_ok, throwIf_eq_ok, validatePreviousIds_eq_ok,
    Bool.or_eq_false_iff, Bool.not_eq_false', decide_eq_false_iff_not]
  constructor
  · rintro ⟨_, hactors, _, hloot, _, ⟨⟨⟨⟨-, henter⟩, hleave⟩, hpositive⟩, hordered⟩, _, hcenter,
      h⟩
    exact ⟨⟨hactors, hloot, henter, hleave, hpositive, hordered, hcenter⟩,
      (Except.ok.inj h).symm⟩
  · rintro ⟨hquery, rfl⟩
    exact ⟨(), hquery.actors, (), hquery.loot, (), ⟨⟨⟨⟨contains_isFinite hquery.center,
      hquery.enterFinite⟩, hquery.leaveFinite⟩, hquery.positive⟩, hquery.ordered⟩, (),
      hquery.center, rfl⟩

theorem mem_visibleEntries {R κ : Type} [Scalar R] [LinearOrder κ] {previous : List κ}
    (hprevious : Ascending id previous) {center : Vec2 R} {enterRadius leaveRadius : R}
    {entries : List (GridEntry κ R)} {entryId : κ} :
    entryId ∈ visibleEntries previous center (enterRadius * enterRadius)
        (leaveRadius * leaveRadius) entries ↔
      ∃ entry ∈ entries, entry.id = entryId ∧
        Near previous center enterRadius leaveRadius entry := by
  have hseen (entry : GridEntry κ R) :
      (lookup id entry.id previous).isSome = true ↔ entry.id ∈ previous := by
    rw [lookup_isSome hprevious]
    simp
  simp only [visibleEntries, List.mem_map, List.mem_filter, decide_eq_true_eq, hseen, Near]
  constructor
  · rintro ⟨entry, ⟨hentry, hnear⟩, hid⟩
    exact ⟨entry, hentry, hid, hnear⟩
  · rintro ⟨entry, hentry, hid, hnear⟩
    exact ⟨entry, ⟨hentry, hnear⟩, hid⟩

theorem mem_indices {first last index : Nat} :
    index ∈ indices first last ↔ first ≤ index ∧ index ≤ last := by
  rw [indices, List.mem_range'_1]
  omega

/-! ## Exact numbers -/

section Exact

variable {K : Type} [Field K] [LinearOrder K] [FloorRing K] [SquareRoot K]

/-- A grid over a box with finite sides and a positive cell size. -/
structure Covers (grid : InterestGrid (Extended K)) (left bottom right top size : K) : Prop where
  bounds : grid.bounds = ⟨⟨.finite left, .finite bottom⟩, ⟨.finite right, .finite top⟩⟩
  cellSize : grid.cellSize = .finite size
  positive : 0 < size
  columns : 0 < grid.columns
  rows : 0 < grid.rows
  cells : grid.cells.length = grid.columns * grid.rows

theorem gridDimension_eq_ok {extent cellSize : Extended K} {count : Nat}
    (h : gridDimension extent cellSize = .ok count) :
    (∃ value, extent = .finite value) ∧ 0 < count := by
  unfold gridDimension at h
  dsimp only at h
  split at h
  next => cases h
  next quotient hquotient =>
    obtain ⟨hcount, h⟩ := throwIf_bind_eq_ok.mp h
    obtain rfl := Except.ok.inj h
    constructor
    · cases extent with
      | finite value => exact ⟨value, rfl⟩
      | infinite => cases hquotient
      | minusInfinite => cases hquotient
    · simp only [Bool.or_eq_false_iff, decide_eq_false_iff_not] at hcount
      omega

theorem finite_of_sub {a b : Extended K} {value : K} (h : a - b = .finite value) :
    ∃ first second : K, a = .finite first ∧ b = .finite second := by
  cases a with
  | infinite => cases h
  | minusInfinite => cases h
  | finite first =>
    cases b with
    | infinite => cases h
    | minusInfinite => cases h
    | finite second => exact ⟨first, second, rfl, rfl⟩

theorem create_covers {bounds : Aabb2 (Extended K)} {cellSize : Extended K}
    {grid : InterestGrid (Extended K)} (h : create bounds cellSize = .ok grid) :
    grid.bounds = bounds ∧ ∃ left bottom right top size : K,
      grid.Covers left bottom right top size := by
  unfold create at h
  obtain ⟨hvalid, h⟩ := throwIf_bind_eq_ok.mp h
  obtain ⟨columns, hcolumns, h⟩ := except_bind_eq_ok.mp h
  obtain ⟨rows, hrows, h⟩ := except_bind_eq_ok.mp h
  obtain ⟨-, h⟩ := throwIf_bind_eq_ok.mp h
  obtain rfl := Except.ok.inj h
  obtain ⟨⟨width, hwidth⟩, hcolumnCount⟩ := gridDimension_eq_ok hcolumns
  obtain ⟨⟨depth, hdepth⟩, hrowCount⟩ := gridDimension_eq_ok hrows
  obtain ⟨⟨left, bottom⟩, ⟨right, top⟩⟩ := bounds
  obtain ⟨right, left, rfl, rfl⟩ := finite_of_sub hwidth
  obtain ⟨top, bottom, rfl, rfl⟩ := finite_of_sub hdepth
  simp only [Bool.or_eq_false_iff, Bool.not_eq_false', decide_eq_false_iff_not] at hvalid
  obtain ⟨⟨⟨hsize, hpositive⟩, -⟩, -⟩ := hvalid
  obtain ⟨size, rfl⟩ := Extended.isFinite_iff.mp hsize
  refine ⟨rfl, left, bottom, right, top, size, rfl, rfl, ?_, hcolumnCount, hrowCount,
    List.length_replicate⟩
  exact not_le.mp (Extended.finite_le.not.mp hpositive)

/-- A rebuild leaves a grid over the same box. -/
theorem Covers.rebuild {grid rebuilt : InterestGrid (Extended K)}
    {left bottom right top size : K} (h : grid.Covers left bottom right top size)
    {actors : List (GridItem EntityId (Extended K))} {loot : List (GridItem UInt32 (Extended K))}
    (hrebuild : grid.rebuild actors loot = .ok rebuilt) :
    rebuilt.Covers left bottom right top size := by
  obtain ⟨hgrid, hcells, -⟩ := rebuild_holds hrebuild
  rw [hgrid]
  exact ⟨h.bounds, h.cellSize, h.positive, h.columns, h.rows, hcells.trans h.cells⟩

theorem Built.covers {bounds : Aabb2 (Extended K)} {cellSize : Extended K}
    {grid : InterestGrid (Extended K)} (h : Built bounds cellSize grid) :
    grid.bounds = bounds ∧ ∃ left bottom right top size : K,
      grid.Covers left bottom right top size := by
  induction h with
  | create hgrid => exact create_covers hgrid
  | rebuild hgrid hrebuild ih =>
    obtain ⟨hbounds, left, bottom, right, top, size, hcovers⟩ := ih
    refine ⟨?_, left, bottom, right, top, size, hcovers.rebuild hrebuild⟩
    obtain ⟨hgrid, -⟩ := rebuild_holds hrebuild
    rw [hgrid]
    exact hbounds

/-! ### Cells along a side -/

theorem cellOf_lt {R : Type} [Scalar R] (relative : R) {count : Nat} (hcount : 0 < count) :
    cellOf relative count < count :=
  Nat.lt_of_le_of_lt (Nat.min_le_right _ _) (Nat.pred_lt hcount.ne')

theorem cellOf_mono {a b : K} (h : a ≤ b) (count : Nat) :
    cellOf (Extended.finite a) count ≤ cellOf (Extended.finite b) count :=
  min_le_min_right _ (Int.toNat_le_toNat (Int.floor_mono h))

section Ordered

variable [IsStrictOrderedRing K]

variable {grid : InterestGrid (Extended K)} {left bottom right top size : K}

theorem Covers.column_mono (h : grid.Covers left bottom right top size) {x x' : K}
    (hx : x ≤ x') : grid.column (.finite x) ≤ grid.column (.finite x') := by
  rw [column, column, h.bounds, h.cellSize, Extended.finite_sub, Extended.finite_sub,
    Extended.finite_div h.positive.ne', Extended.finite_div h.positive.ne']
  refine cellOf_mono ?_ _
  exact div_le_div_of_nonneg_right (sub_le_sub_right hx left) h.positive.le

theorem Covers.row_mono (h : grid.Covers left bottom right top size) {z z' : K}
    (hz : z ≤ z') : grid.row (.finite z) ≤ grid.row (.finite z') := by
  rw [row, row, h.bounds, h.cellSize, Extended.finite_sub, Extended.finite_sub,
    Extended.finite_div h.positive.ne', Extended.finite_div h.positive.ne']
  refine cellOf_mono ?_ _
  exact div_le_div_of_nonneg_right (sub_le_sub_right hz bottom) h.positive.le

omit [IsStrictOrderedRing K] in
theorem Covers.cellIndex_lt (h : grid.Covers left bottom right top size)
    (position : Vec2 (Extended K)) : grid.cellIndex position < grid.cells.length := by
  have hrow : grid.row position.z + 1 ≤ grid.rows := cellOf_lt _ h.rows
  have hcolumn : grid.column position.x < grid.columns := cellOf_lt _ h.columns
  rw [h.cells, cellIndex]
  calc grid.row position.z * grid.columns + grid.column position.x
      < (grid.row position.z + 1) * grid.columns := by rw [Nat.succ_mul]; omega
    _ ≤ grid.rows * grid.columns := Nat.mul_le_mul_right _ hrow
    _ = grid.columns * grid.rows := Nat.mul_comm _ _

/-! ### Queries -/

omit [FloorRing K] [SquareRoot K] in
/-- A square that is not above another has a side that is not above the other's. -/
theorem side_le {a b radius : K} (hradius : 0 ≤ radius)
    (h : a * a + b * b ≤ radius * radius) : |a| ≤ radius := by
  refine abs_le_of_sq_le_sq ?_ hradius
  rw [pow_two, pow_two]
  linarith [mul_self_nonneg b]

theorem mem_queryCells {R : Type} [Scalar R] {grid : InterestGrid R} {center : Vec2 R}
    {leaveRadius : R} {cell : GridCell R} :
    cell ∈ grid.queryCells center leaveRadius ↔ ∃ row column,
      (grid.row (Scalar.max grid.bounds.minimum.z (center.z - leaveRadius)) ≤ row ∧
        row ≤ grid.row (Scalar.min grid.bounds.maximum.z (center.z + leaveRadius))) ∧
      (grid.column (Scalar.max grid.bounds.minimum.x (center.x - leaveRadius)) ≤ column ∧
        column ≤ grid.column (Scalar.min grid.bounds.maximum.x (center.x + leaveRadius))) ∧
      grid.cells.getD (row * grid.columns + column) {} = cell := by
  simp only [queryCells, List.mem_flatMap, List.mem_map, mem_indices]
  constructor
  · rintro ⟨row, hrow, column, hcolumn, hcell⟩
    exact ⟨row, column, hrow, hcolumn, hcell⟩
  · rintro ⟨row, column, hrow, hcolumn, hcell⟩
    exact ⟨row, hrow, column, hcolumn, hcell⟩

/-- The walked cells hold every point of the box within the leave radius. -/
theorem Covers.cell_walked (h : grid.Covers left bottom right top size)
    {position center : Vec2 (Extended K)} (hposition : grid.bounds.contains position = true)
    (hcenter : center.isFinite = true) {leave : K} (hleave : 0 ≤ leave)
    (hnear : (position - center).lengthSquared ≤ Extended.finite (leave * leave)) :
    grid.cells.getD (grid.cellIndex position) {} ∈ grid.queryCells center (.finite leave) := by
  obtain ⟨hfinite, ⟨hleft, hright⟩, hbottom, htop⟩ := Aabb2.contains_iff.mp hposition
  obtain ⟨x, z, rfl⟩ := Vec2.isFinite_iff.mp hfinite
  obtain ⟨cx, cz, rfl⟩ := Vec2.isFinite_iff.mp hcenter
  have hsquare : (x - cx) * (x - cx) + (z - cz) * (z - cz) ≤ leave * leave :=
    Extended.finite_le.mp hnear
  have hx := abs_le.mp (side_le hleave hsquare)
  have hz := abs_le.mp (side_le hleave ((add_comm _ _).trans_le hsquare))
  rw [h.bounds] at hleft hright hbottom htop
  rw [Extended.finite_le] at hleft hright hbottom htop
  refine mem_queryCells.mpr ⟨_, _, ?_, ?_, rfl⟩
  · rw [h.bounds, Extended.finite_sub, Extended.finite_add, Extended.max_finite,
      Extended.min_finite]
    exact ⟨h.row_mono (max_le hbottom (by linarith)), h.row_mono (le_min htop (by linarith))⟩
  · rw [h.bounds, Extended.finite_sub, Extended.finite_add, Extended.max_finite,
      Extended.min_finite]
    exact ⟨h.column_mono (max_le hleft (by linarith)),
      h.column_mono (le_min hright (by linarith))⟩

theorem Near.within {κ : Type} [LinearOrder κ] {previous : List κ} {center : Vec2 (Extended K)}
    {enter leave : K} (henter : 0 ≤ enter) (horder : enter ≤ leave)
    {entry : GridEntry κ (Extended K)}
    (h : Near previous center (.finite enter) (.finite leave) entry) :
    (entry.position - center).lengthSquared ≤ Extended.finite (leave * leave) := by
  refine extended_le_trans h ?_
  split
  · exact Extended.finite_le.mpr le_rfl
  · exact Extended.finite_le.mpr (mul_self_le_mul_self henter horder)

/-- A query over cells that hold the items of a box reports those that are near. -/
theorem Covers.mem_reported (h : grid.Covers left bottom right top size) {κ : Type}
    [LinearOrder κ] {select : GridCell (Extended K) → List (GridEntry κ (Extended K))}
    (hempty : select {} = []) {items : List (GridItem κ (Extended K))}
    (hholds : ∀ index < grid.cells.length,
      List.Perm (select (grid.cells.getD index {})) (grid.bucket index items))
    (hinside : ∀ item ∈ items, grid.bounds.contains item.position = true)
    {previous : List κ} (hprevious : Ascending id previous) {center : Vec2 (Extended K)}
    (hcenter : center.isFinite = true) {enter leave : K} (henter : 0 ≤ enter)
    (horder : enter ≤ leave) (entryId : κ) :
    entryId ∈ sortAndDeduplicate ((grid.queryCells center (.finite leave)).flatMap fun cell =>
        visibleEntries previous center (.finite enter * .finite enter)
          (.finite leave * .finite leave) (select cell)) ↔
      ∃ item ∈ items, item.id = entryId ∧
        Near previous center (.finite enter) (.finite leave) item.toGridEntry := by
  rw [sortAndDeduplicate, mem_unique, (sortByKey_perm _).mem_iff, List.mem_flatMap]
  simp only [mem_visibleEntries hprevious]
  constructor
  · rintro ⟨cell, hcell, entry, hentry, hid, hnear⟩
    obtain ⟨row, column, -, -, rfl⟩ := mem_queryCells.mp hcell
    by_cases hindex : row * grid.columns + column < grid.cells.length
    · obtain ⟨item, hitem, -, rfl⟩ := mem_bucket.mp ((hholds _ hindex).mem_iff.mp hentry)
      exact ⟨item, hitem, hid, hnear⟩
    · rw [List.getD_eq_default _ _ (not_lt.mp hindex), hempty] at hentry
      cases hentry
  · rintro ⟨item, hitem, hid, hnear⟩
    refine ⟨_, h.cell_walked (hinside item hitem) hcenter (henter.trans horder)
      (hnear.within henter horder), item.toGridEntry, ?_, hid, hnear⟩
    rw [(hholds _ (h.cellIndex_lt _)).mem_iff]
    exact mem_bucket.mpr ⟨item, hitem, rfl, rfl⟩

/-- What a query reports of the world its grid was rebuilt for. -/
theorem updateVisibility_reports {bounds : Aabb2 (Extended K)} {cellSize : Extended K}
    (hgrid : Built bounds cellSize grid) {rebuilt : InterestGrid (Extended K)}
    {actors : List (GridItem EntityId (Extended K))} {loot : List (GridItem UInt32 (Extended K))}
    (hrebuild : grid.rebuild actors loot = .ok rebuilt) {previous visible : VisibleSet}
    {center : Vec2 (Extended K)} {enterRadius leaveRadius : Extended K}
    (h : rebuilt.updateVisibility previous center enterRadius leaveRadius = .ok visible) :
    (∀ actorId, actorId ∈ visible.actors ↔ ∃ actor ∈ actors, actor.id = actorId ∧
      Near previous.actors center enterRadius leaveRadius actor.toGridEntry) ∧
    ∀ lootId, lootId ∈ visible.loot ↔ ∃ item ∈ loot, item.active = true ∧ item.id = lootId ∧
      Near previous.loot center enterRadius leaveRadius item.toGridEntry := by
  obtain ⟨hbounds, left, bottom, right, top, size, hcovers⟩ :=
    (hgrid.rebuild hrebuild).covers
  obtain ⟨-, -, hholds⟩ := rebuild_holds hrebuild
  obtain ⟨hfits, -⟩ := rebuild_eq_ok.mp hrebuild
  rw [hgrid.covers.1, ← hbounds] at hfits
  obtain ⟨hquery, rfl⟩ := updateVisibility_eq_ok.mp h
  obtain ⟨enter, rfl⟩ := Extended.isFinite_iff.mp hquery.enterFinite
  obtain ⟨leave, rfl⟩ := Extended.isFinite_iff.mp hquery.leaveFinite
  have henter : 0 ≤ enter := (not_le.mp (Extended.finite_le.not.mp hquery.positive)).le
  have horder : enter ≤ leave := not_lt.mp (Extended.finite_lt.not.mp hquery.ordered)
  have hcenter := contains_isFinite hquery.center
  refine ⟨fun actorId => hcovers.mem_reported rfl hholds.actors hfits.actorsInside
    hquery.actors hcenter henter horder actorId, fun lootId => ?_⟩
  have hactive : ∀ item ∈ loot.filter (·.active), rebuilt.bounds.contains item.position = true :=
    fun item hitem => hfits.lootInside item (List.mem_of_mem_filter hitem)
  rw [hcovers.mem_reported rfl hholds.loot hactive hquery.loot hcenter henter horder lootId]
  simp only [List.mem_filter, and_assoc]

end Ordered

end Exact

end InterestGrid

/-! ## The controlled actor -/

namespace SnapshotReplicator

/-- An interest build that returns has the controlled actor in the visible set that it
filters the world by. -/
theorem prepare_visible {replicator : SnapshotReplicator} {recipient : Recipient}
    {snapshotId : UInt32} {world : GameSnapshot} {prepared : PreparedBuild}
    (h : replicator.prepare recipient snapshotId world = .ok prepared) :
    recipient.controlledActor ∈ prepared.visible.actors ∧
      filterWorld world prepared.visible = .ok prepared.filtered ∧
      ∃ choice, replicator.choosePayload recipient snapshotId prepared.filtered = .ok choice ∧
        prepared.build.payload = choice.payload ∧ prepared.build.keyframe = choice.keyframe := by
  unfold prepare at h
  obtain ⟨-, h⟩ := throwIf_bind_eq_ok.mp h
  obtain ⟨controlledActor, -, h⟩ := except_bind_eq_ok.mp h
  obtain ⟨candidateGrid, -, h⟩ := except_bind_eq_ok.mp h
  obtain ⟨visible, -, h⟩ := except_bind_eq_ok.mp h
  obtain ⟨hsome, h⟩ := throwIf_bind_eq_ok.mp h
  obtain ⟨filtered, hfiltered, h⟩ := except_bind_eq_ok.mp h
  obtain ⟨choice, hchoice, h⟩ := except_bind_eq_ok.mp h
  obtain ⟨encodedPayload, -, h⟩ := except_bind_eq_ok.mp h
  obtain rfl := Except.ok.inj h
  refine ⟨?_, hfiltered, choice, hchoice, rfl, rfl⟩
  rw [Option.isNone_eq_false_iff, Option.isSome_iff_exists] at hsome
  obtain ⟨found, hfound⟩ := hsome
  rw [← key_of_lookup hfound]
  exact mem_of_lookup hfound

/-- The identities of the actors that a keyframe lists. -/
def keyframeActors (payload : SnapshotPayload) : List EntityId :=
  if payload.header.valueEncoding = .fullPrecision then
    payload.fullPrecision.actors.map NetworkActorSnapshot.id
  else payload.actorValues.map QuantizedActorValue.id

theorem filterWorld_actors {world filtered : GameSnapshot} {visible : VisibleSet}
    (h : filterWorld world visible = .ok filtered) :
    filtered.actors.map NetworkActorSnapshot.id = visible.actors := by
  obtain ⟨actors, hactors, h⟩ := except_bind_eq_ok.mp h
  obtain ⟨loot, -, h⟩ := except_bind_eq_ok.mp h
  obtain rfl := Except.ok.inj h
  rw [mapM_keys (fun _ _ => visibleActor_id) hactors, List.map_id']

theorem quantizeView_actors {filtered : GameSnapshot} {minimum maximum : Vec2 Float32}
    {radiusMaximum : Float32} {view : QuantizedWorld}
    (h : quantizeView filtered minimum maximum radiusMaximum = .ok view) :
    view.actors.map QuantizedActorValue.id = filtered.actors.map NetworkActorSnapshot.id := by
  obtain ⟨global, -, h⟩ := except_bind_eq_ok.mp h
  obtain ⟨actors, hactors, h⟩ := except_bind_eq_ok.mp h
  obtain ⟨loot, -, h⟩ := except_bind_eq_ok.mp h
  obtain rfl := Except.ok.inj h
  exact mapM_keys (fun _ _ => quantizeActor_id) hactors

/-- A keyframe lists the actors of the filtered world. -/
theorem choosePayload_keyframe {replicator : SnapshotReplicator} {recipient : Recipient}
    {snapshotId : UInt32} {filtered : GameSnapshot} {choice : PayloadChoice}
    (h : replicator.choosePayload recipient snapshotId filtered = .ok choice)
    (hkeyframe : choice.keyframe = true) :
    keyframeActors choice.payload = filtered.actors.map NetworkActorSnapshot.id := by
  unfold choosePayload at h
  split at h
  · obtain rfl := Except.ok.inj h
    rfl
  · obtain ⟨view, hview, h⟩ := except_bind_eq_ok.mp h
    rw [← quantizeView_actors hview]
    split at h
    · unfold chooseDelta at h
      dsimp only at h
      split at h
      · obtain rfl := Except.ok.inj h
        rfl
      · obtain ⟨payload, -, h⟩ := except_bind_eq_ok.mp h
        obtain rfl := Except.ok.inj h
        cases hkeyframe
    · obtain rfl := Except.ok.inj h
      rfl

/-- The controlled actor is in the visible set of every interest build that returns, and in
the keyframes it sends. -/
theorem build_includes_controlledActor {replicator built : SnapshotReplicator}
    {player : PlayerId} {snapshotId : UInt32} {world : GameSnapshot} {build : ReplicationBuild}
    (hmode : replicator.config.mode ≠ .fullState)
    (h : replicator.build player snapshotId world = (built, .ok build)) :
    ∃ recipient, built.recipients[player]? = some recipient ∧
      recipient.controlledActor ∈ recipient.visible.actors ∧
      (build.keyframe = true → recipient.controlledActor ∈ keyframeActors build.payload) := by
  obtain ⟨recipient, -, h⟩ := attempt_eq_ok.mp h
  split at h
  · cases h
  obtain ⟨prepared, hprepared, h⟩ := attempt_eq_ok.mp h
  cases h
  obtain ⟨hcontrolled, hfiltered, choice, hchoice, hpayload, hkeyframe⟩ :=
    prepare_visible hprepared
  refine ⟨_, setRecipient_recipients _ _ _, hcontrolled, fun hsent => ?_⟩
  rw [hpayload, choosePayload_keyframe hchoice (hkeyframe.symm.trans hsent),
    filterWorld_actors hfiltered]
  exact hcontrolled

end SnapshotReplicator

section Exact

variable {K : Type} [Field K] [LinearOrder K] [IsStrictOrderedRing K] [FloorRing K] [SquareRoot K]

theorem InterestGrid.near_center {κ : Type} [LinearOrder κ] {previous : List κ}
    {center : Vec2 (Extended K)} (hcenter : center.isFinite = true)
    {enterRadius leaveRadius : Extended K}
    (henter : Scalar.isFinite enterRadius = true) (hleave : Scalar.isFinite leaveRadius = true)
    (entryId : κ) : Near previous center enterRadius leaveRadius ⟨entryId, center⟩ := by
  obtain ⟨x, z, rfl⟩ := Vec2.isFinite_iff.mp hcenter
  obtain ⟨enter, rfl⟩ := Extended.isFinite_iff.mp henter
  obtain ⟨leave, rfl⟩ := Extended.isFinite_iff.mp hleave
  have hzero : (x - x) * (x - x) + (z - z) * (z - z) = 0 := by ring
  unfold Near
  show Extended.finite ((x - x) * (x - x) + (z - z) * (z - z)) ≤ _
  rw [hzero]
  split
  · exact Extended.finite_le.mpr (mul_self_nonneg leave)
  · exact Extended.finite_le.mpr (mul_self_nonneg enter)

/-- A rebuild returns for the worlds within the box, a query for centers within it, and the
query reports what is near.  An interest build that returns includes the controlled actor. -/
theorem interestVisibility_exact {bounds : Aabb2 (Extended K)} {cellSize : Extended K}
    {grid : InterestGrid (Extended K)} (hgrid : InterestGrid.Built bounds cellSize grid)
    (actors : List (GridItem EntityId (Extended K))) (loot : List (GridItem UInt32 (Extended K))) :
    ((∃ rebuilt, grid.rebuild actors loot = .ok rebuilt) ↔
      InterestGrid.Fits bounds actors loot) ∧
    (∀ rebuilt, grid.rebuild actors loot = .ok rebuilt →
      ∀ previous center enterRadius leaveRadius,
        ((∃ visible, rebuilt.updateVisibility previous center enterRadius leaveRadius =
            .ok visible) ↔
          InterestGrid.ValidQuery bounds previous center enterRadius leaveRadius) ∧
        ∀ visible, rebuilt.updateVisibility previous center enterRadius leaveRadius =
            .ok visible →
          Ascending id visible.actors ∧ Ascending id visible.loot ∧
          (∀ actorId, actorId ∈ visible.actors ↔ ∃ actor ∈ actors, actor.id = actorId ∧
            InterestGrid.Near previous.actors center enterRadius leaveRadius
              actor.toGridEntry) ∧
          (∀ lootId, lootId ∈ visible.loot ↔ ∃ item ∈ loot, item.active = true ∧
            item.id = lootId ∧ InterestGrid.Near previous.loot center enterRadius leaveRadius
              item.toGridEntry) ∧
          ∀ actor ∈ actors, actor.position = center → actor.id ∈ visible.actors) ∧
    ∀ (replicator built : SnapshotReplicator) (player : PlayerId) (snapshotId : UInt32)
      (world : GameSnapshot) (build : ReplicationBuild), replicator.config.mode ≠ .fullState →
      replicator.build player snapshotId world = (built, .ok build) →
      ∃ recipient, built.recipients[player]? = some recipient ∧
        recipient.controlledActor ∈ recipient.visible.actors ∧
        (build.keyframe = true →
          recipient.controlledActor ∈ SnapshotReplicator.keyframeActors build.payload) := by
  refine ⟨?_, ?_, ?_⟩
  · rw [← hgrid.covers.1]
    constructor
    · rintro ⟨rebuilt, hrebuilt⟩
      exact (InterestGrid.rebuild_eq_ok.mp hrebuilt).1
    · intro hfits
      exact ⟨_, InterestGrid.rebuild_eq_ok.mpr ⟨hfits, rfl⟩⟩
  · intro rebuilt hrebuild previous center enterRadius leaveRadius
    have hbounds : rebuilt.bounds = bounds := (hgrid.rebuild hrebuild).covers.1
    constructor
    · rw [← hbounds]
      constructor
      · rintro ⟨visible, hvisible⟩
        exact (InterestGrid.updateVisibility_eq_ok.mp hvisible).1
      · intro hquery
        exact ⟨_, InterestGrid.updateVisibility_eq_ok.mpr ⟨hquery, rfl⟩⟩
    · intro visible hvisible
      obtain ⟨hactors, hloot⟩ := InterestGrid.updateVisibility_reports hgrid hrebuild hvisible
      obtain ⟨hactorsAscend, hlootAscend⟩ := updateVisibility_ascending hvisible
      refine ⟨hactorsAscend, hlootAscend, hactors, hloot, ?_⟩
      intro actor hactor hposition
      obtain ⟨hquery, -⟩ := InterestGrid.updateVisibility_eq_ok.mp hvisible
      refine (hactors actor.id).mpr ⟨actor, hactor, rfl, ?_⟩
      rw [show actor.toGridEntry = ⟨actor.id, center⟩ by rw [← hposition]]
      exact InterestGrid.near_center (InterestGrid.contains_isFinite hquery.center)
        hquery.enterFinite hquery.leaveFinite actor.id
  · intro replicator built player snapshotId world build hmode hbuild
    exact SnapshotReplicator.build_includes_controlledActor hmode hbuild

end Exact

/-! ## A small arena -/

def smallArena : Aabb2 (Extended ℚ) :=
  ⟨⟨.finite 0, .finite 0⟩, ⟨.finite 8, .finite 8⟩⟩

def actorAt (actorId : UInt32) (x z : ℚ) : GridItem EntityId (Extended ℚ) where
  id := ⟨actorId⟩
  position := ⟨.finite x, .finite z⟩

theorem smallArena_created :
    (InterestGrid.create smallArena (.finite 4)).toOption.isSome = true := by
  decide +kernel

def smallGrid : InterestGrid (Extended ℚ) :=
  (InterestGrid.create smallArena (.finite 4)).toOption.get smallArena_created

/-- Actors at the borders of cells and of the arena, seen from a corner of four cells. -/
theorem interestVisibility_exact_border :
    ∃ rebuilt visible,
      smallGrid.rebuild [actorAt 2 4 4, actorAt 1 8 4, actorAt 3 1 4] [] = .ok rebuilt ∧
      rebuilt.updateVisibility { actors := [⟨1⟩] } ⟨.finite 4, .finite 4⟩ (.finite 2)
        (.finite 4) = .ok visible ∧
      ⟨1⟩ ∈ visible.actors ∧ ⟨2⟩ ∈ visible.actors ∧ ⟨3⟩ ∉ visible.actors := by
  have hgrid : InterestGrid.Built smallArena (.finite 4) smallGrid :=
    .create (except_eq_ok_get smallArena_created)
  obtain ⟨hrebuilds, hreports, -⟩ := interestVisibility_exact hgrid
    [actorAt 2 4 4, actorAt 1 8 4, actorAt 3 1 4] []
  obtain ⟨rebuilt, hrebuilt⟩ := hrebuilds.mpr
    ⟨by decide, by decide, by decide, by decide, by decide +kernel, nofun⟩
  obtain ⟨hqueries, hvisible⟩ := hreports rebuilt hrebuilt { actors := [⟨1⟩] }
    ⟨.finite 4, .finite 4⟩ (.finite 2) (.finite 4)
  obtain ⟨visible, hquery⟩ := hqueries.mpr
    ⟨by decide, by decide, rfl, rfl, by decide +kernel, by decide +kernel, by decide +kernel⟩
  obtain ⟨-, -, hactors, -, hcentered⟩ := hvisible visible hquery
  refine ⟨rebuilt, visible, hrebuilt, hquery, ?_, hcentered (actorAt 2 4 4) (by simp) rfl, ?_⟩
  · refine (hactors ⟨1⟩).mpr ⟨actorAt 1 8 4, by simp, rfl, ?_⟩
    unfold InterestGrid.Near
    decide +kernel
  · intro hthird
    obtain ⟨actor, hactor, hid, hnear⟩ := (hactors ⟨3⟩).mp hthird
    have hactor : actor = actorAt 3 1 4 := by
      simp only [List.mem_cons, List.not_mem_nil, or_false] at hactor
      rcases hactor with rfl | rfl | rfl
      · cases hid
      · cases hid
      · rfl
    rw [hactor] at hnear
    unfold InterestGrid.Near at hnear
    revert hnear
    decide +kernel

/-- An entity or a center outside the arena is refused, and a build of the full state takes the
world as it is. -/
theorem interestVisibility_exact_outside :
    smallGrid.rebuild [actorAt 1 9 4] [] =
        .error (.outOfRange "actor position is outside grid bounds") ∧
      smallGrid.updateVisibility {} ⟨.finite 9, .finite 4⟩ (.finite 2) (.finite 4) =
        .error (.outOfRange "interest center is outside grid bounds") ∧
      ((SnapshotReplicator.create [⟨-128, -128⟩, ⟨128, -128⟩, ⟨128, 128⟩] {}).toOption.bind
        fun replicator => ((replicator.registerRecipient ⟨1⟩ ⟨1⟩).1.build ⟨1⟩ 1
          { phase := .running }).2.toOption.map fun build =>
            build.payload.fullPrecision.actors) = some [] := by
  refine ⟨?_, ?_, ?_⟩
  · decide +kernel
  · decide +kernel
  · decide +kernel

end SurvivalArena
