import SurvivalArena.Framework.KeyedList
import SurvivalArena.Protocol.GameSnapshot
import SurvivalArena.Simulation.Math2

/-!
# The interest grid

Entities in square cells over the arena.  A query walks the cells around its
centre and keeps what is near enough: within the enter radius, or within the
leave radius for an entity that was visible before.
-/

namespace SurvivalArena

open KeyedList

structure VisibleSet where
  actors : List EntityId := []
  loot : List UInt32 := []
deriving DecidableEq

structure GridEntry (κ R : Type) where
  id : κ
  position : Vec2 R
deriving DecidableEq

structure GridCell (R : Type) where
  actors : List (GridEntry EntityId R) := []
  loot : List (GridEntry UInt32 R) := []
deriving DecidableEq

structure InterestGrid (R : Type) where
  bounds : Aabb2 R
  cellSize : R
  columns : Nat
  rows : Nat
  cells : List (GridCell R)
deriving DecidableEq

/-- An active or inactive entity of a world, as the grid reads it. -/
structure GridItem (κ R : Type) extends GridEntry κ R where
  active : Bool := true

variable {R : Type} [Scalar R]

/-- The largest value of the index type of the source. -/
def maxSize : Nat := 2 ^ 64 - 1

/-- The cells along one side; the test compares as doubles, so the bound itself
rounds up to the next power of two. -/
def gridDimension (extent cellSize : R) : Except Exception Nat :=
  let error := Exception.lengthError "interest grid dimensions are invalid"
  match Scalar.ceilQuotient extent cellSize with
  | none => .error error
  | some count => do
    throwIf (decide (count < 1) || decide ((maxSize + 1 : Nat) < count)) error
    pure count.toNat

namespace InterestGrid

def create (bounds : Aabb2 R) (cellSize : R) :
    Except Exception (InterestGrid R) := do
  let extent := bounds.maximum - bounds.minimum
  throwIf (!Scalar.isFinite cellSize || decide (cellSize ≤ 0) ||
      decide (extent.x ≤ 0) || decide (extent.z ≤ 0))
    (.invalidArgument "interest grid configuration is invalid")
  let columns ← gridDimension extent.x cellSize
  let rows ← gridDimension extent.z cellSize
  throwIf (decide (maxSize / rows < columns))
    (.lengthError "interest grid cell count overflows")
  pure { bounds, cellSize, columns, rows,
         cells := List.replicate (columns * rows) {} }

/-- The cell a coordinate falls in, clamped to the grid. -/
def cellOf (relative : R) (count : Nat) : Nat :=
  Nat.min ((Scalar.floor relative).getD 0).toNat (count - 1)

def column (grid : InterestGrid R) (x : R) : Nat :=
  cellOf ((x - grid.bounds.minimum.x) / grid.cellSize) grid.columns

def row (grid : InterestGrid R) (z : R) : Nat :=
  cellOf ((z - grid.bounds.minimum.z) / grid.cellSize) grid.rows

def cellIndex (grid : InterestGrid R) (position : Vec2 R) : Nat :=
  grid.row position.z * grid.columns + grid.column position.x

def hasDuplicateIds {α κ : Type} [LinearOrder κ] (key : α → κ)
    (values : List α) : Bool :=
  hasAdjacentDuplicate id (sortByKey id (values.map key))

/-- Every position is finite and inside the bounds; `kind` names the entity in
the messages. -/
def checkPositions {κ : Type} (grid : InterestGrid R) (kind : String)
    (items : List (GridItem κ R)) : Except Exception Unit :=
  items.forM fun item => do
    throwIf (!item.position.isFinite)
      (.invalidArgument (kind ++ " position is not finite"))
    throwIf (!grid.bounds.contains item.position)
      (.outOfRange (kind ++ " position is outside grid bounds"))

def pushActor (grid : InterestGrid R) (cells : List (GridCell R))
    (actor : GridItem EntityId R) : List (GridCell R) :=
  cells.modify (grid.cellIndex actor.position) fun cell =>
    { cell with actors := cell.actors ++ [actor.toGridEntry] }

def pushLoot (grid : InterestGrid R) (cells : List (GridCell R))
    (loot : GridItem UInt32 R) : List (GridCell R) :=
  if loot.active then
    cells.modify (grid.cellIndex loot.position) fun cell =>
      { cell with loot := cell.loot ++ [loot.toGridEntry] }
  else cells

def sortCell (cell : GridCell R) : GridCell R where
  actors := sortByKey GridEntry.id cell.actors
  loot := sortByKey GridEntry.id cell.loot

def rebuild (grid : InterestGrid R) (actors : List (GridItem EntityId R))
    (loot : List (GridItem UInt32 R)) : Except Exception (InterestGrid R) := do
  throwIf (decide (maxSnapshotActors < actors.length) ||
      decide (maxSnapshotLoot < loot.length))
    (.lengthError "interest grid world exceeds snapshot bounds")
  throwIf (hasDuplicateIds (·.id) actors || hasDuplicateIds (·.id) loot)
    (.invalidArgument "interest grid IDs must be unique")
  grid.checkPositions "actor" actors
  grid.checkPositions "loot" loot
  let empty := List.replicate grid.cells.length {}
  let rebuilt := loot.foldl grid.pushLoot (actors.foldl grid.pushActor empty)
  pure { grid with cells := rebuilt.map sortCell }

def validatePreviousIds {κ : Type} [LinearOrder κ] (ids : List κ) :
    Except Exception Unit :=
  throwIf (!decide (ids.Pairwise (· ≤ ·)) || hasAdjacentDuplicate id ids)
    (.invalidArgument "previous visibility IDs are not canonical")

/-- The entries of a cell that are near enough to the centre. -/
def visibleEntries {κ : Type} [LinearOrder κ] (previous : List κ)
    (center : Vec2 R) (enterSquared leaveSquared : R)
    (entries : List (GridEntry κ R)) : List κ :=
  (entries.filter fun entry =>
    let maximumDistance :=
      if (lookup id entry.id previous).isSome then leaveSquared
      else enterSquared
    decide ((entry.position - center).lengthSquared ≤ maximumDistance)).map
      GridEntry.id

def sortAndDeduplicate {κ : Type} [LinearOrder κ] (ids : List κ) : List κ :=
  unique (sortByKey id ids)

/-- The indices from `first` to `last`. -/
def indices (first last : Nat) : List Nat :=
  List.range' first (last + 1 - first)

/-- The cells that the square around a query's centre touches. -/
def queryCells (grid : InterestGrid R) (center : Vec2 R) (leaveRadius : R) :
    List (GridCell R) :=
  let bounds := grid.bounds
  let columns := indices
    (grid.column (Scalar.max bounds.minimum.x (center.x - leaveRadius)))
    (grid.column (Scalar.min bounds.maximum.x (center.x + leaveRadius)))
  let rows := indices
    (grid.row (Scalar.max bounds.minimum.z (center.z - leaveRadius)))
    (grid.row (Scalar.min bounds.maximum.z (center.z + leaveRadius)))
  rows.flatMap fun row => columns.map fun column =>
    grid.cells.getD (row * grid.columns + column) {}

def updateVisibility (grid : InterestGrid R) (previous : VisibleSet)
    (center : Vec2 R) (enterRadius leaveRadius : R) :
    Except Exception VisibleSet := do
  validatePreviousIds previous.actors
  validatePreviousIds previous.loot
  throwIf (!center.isFinite || !Scalar.isFinite enterRadius ||
      !Scalar.isFinite leaveRadius || decide (enterRadius ≤ 0) ||
      decide (leaveRadius < enterRadius))
    (.invalidArgument "interest visibility query is invalid")
  throwIf (!grid.bounds.contains center)
    (.outOfRange "interest center is outside grid bounds")
  let enterSquared := enterRadius * enterRadius
  let leaveSquared := leaveRadius * leaveRadius
  let cells := grid.queryCells center leaveRadius
  pure {
    actors := sortAndDeduplicate (cells.flatMap fun cell =>
      visibleEntries previous.actors center enterSquared leaveSquared
        cell.actors)
    loot := sortAndDeduplicate (cells.flatMap fun cell =>
      visibleEntries previous.loot center enterSquared leaveSquared
        cell.loot) }

end InterestGrid

theorem sortAndDeduplicate_ascending {κ : Type} [LinearOrder κ]
    (ids : List κ) : Ascending id (InterestGrid.sortAndDeduplicate ids) :=
  ascending_unique (sortByKey_pairwise ids)

/-- The ids a query reports ascend. -/
theorem updateVisibility_ascending {grid : InterestGrid R}
    {previous visible : VisibleSet} {center : Vec2 R}
    {enterRadius leaveRadius : R}
    (h : grid.updateVisibility previous center enterRadius leaveRadius =
      .ok visible) :
    Ascending id visible.actors ∧ Ascending id visible.loot := by
  simp only [InterestGrid.updateVisibility, InterestGrid.validatePreviousIds,
    throwIf_bind_eq_ok] at h
  have hvisible := Except.ok.inj h.2.2.2.2
  rw [← hvisible]
  exact ⟨sortAndDeduplicate_ascending _, sortAndDeduplicate_ascending _⟩

end SurvivalArena
