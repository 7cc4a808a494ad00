import SurvivalArena.Framework.FloatPrecision
import SurvivalArena.Simulation.NavMesh

/-!
# Locating a point on the mesh

A triangle is in every cell that its bounds touch, and the cell of a point within the bounds
is one of them, so the grid finds the same triangle as a scan of all of them.
-/

namespace SurvivalArena

open KeyedList

variable {R : Type} [Precision R]

/-! ## Filling the grid -/

/-- The triangles of a cell. -/
def cellTriangles (gridCells : Std.ExtTreeMap GridCellKey (List TriangleId)) (key : GridCellKey) :
    List TriangleId :=
  gridCells[key]?.getD []

/-- The cells from the one of the least corner of a box to the one of the greatest. -/
structure Touches (cellSize : R) (box : Aabb2 R) (cell : GridCellKey) : Prop where
  column : ∃ first last, toCellCoordinate box.minimum.x cellSize = some first ∧
    toCellCoordinate box.maximum.x cellSize = some last ∧
    first ≤ (ofLex cell).1 ∧ (ofLex cell).1 ≤ last
  row : ∃ first last, toCellCoordinate box.minimum.z cellSize = some first ∧
    toCellCoordinate box.maximum.z cellSize = some last ∧
    first ≤ (ofLex cell).2 ∧ (ofLex cell).2 ≤ last

theorem mem_cellRange {first last coordinate : Int} :
    coordinate ∈ cellRange first last ↔ first ≤ coordinate ∧ coordinate ≤ last := by
  simp only [cellRange, List.mem_map, List.bind_eq_flatMap, List.mem_flatMap, List.mem_range,
    List.pure_def, List.mem_singleton]
  constructor
  · intro hmem
    obtain ⟨_, ⟨step, hstep, rfl⟩, rfl⟩ := hmem
    omega
  · intro hbetween
    exact ⟨_, ⟨(coordinate - first).toNat, by omega, rfl⟩, by omega⟩

theorem mem_insert_cell {gridCells : Std.ExtTreeMap GridCellKey (List TriangleId)}
    {key cell : GridCellKey} {id triangle : TriangleId} :
    id ∈ cellTriangles (gridCells.insert key (gridCells[key]?.getD [] ++ [triangle])) cell ↔
      id ∈ cellTriangles gridCells cell ∨ (cell = key ∧ id = triangle) := by
  unfold cellTriangles
  rw [Std.ExtTreeMap.getElem?_insert]
  by_cases h : key = cell
  · subst h
    simp
  · have hne : cell ≠ key := fun heq => h heq.symm
    simp [compare_eq_iff_eq.not.mpr h, hne]

/-- What a loop over cells or triangles puts into a cell. -/
theorem mem_foldl_cells {α : Type} {cell : GridCellKey} {id : TriangleId}
    {step : Std.ExtTreeMap GridCellKey (List TriangleId) → α →
      Std.ExtTreeMap GridCellKey (List TriangleId)} {puts : α → Prop}
    (hstep : ∀ gridCells a, id ∈ cellTriangles (step gridCells a) cell ↔
      id ∈ cellTriangles gridCells cell ∨ puts a)
    (items : List α) (gridCells : Std.ExtTreeMap GridCellKey (List TriangleId)) :
    id ∈ cellTriangles (items.foldl step gridCells) cell ↔
      id ∈ cellTriangles gridCells cell ∨ ∃ a ∈ items, puts a := by
  induction items generalizing gridCells with
  | nil => simp
  | cons a items ih =>
    rw [List.foldl_cons, ih, hstep, or_assoc]
    simp

theorem indexTriangle_eq_ok {cellSize : R} {triangle : TriangleData R × Nat}
    {gridCells result : Std.ExtTreeMap GridCellKey (List TriangleId)}
    (h : indexTriangle cellSize gridCells triangle = .ok result) (cell : GridCellKey)
    (id : TriangleId) :
    id ∈ cellTriangles result cell ↔ id ∈ cellTriangles gridCells cell ∨
      (Touches cellSize triangle.1.bounds cell ∧ id = UInt32.ofNat triangle.2) := by
  unfold indexTriangle at h
  dsimp only at h
  split at h
  · rename_i minimumX minimumZ maximumX maximumZ hminX hminZ hmaxX hmaxZ
    cases h
    have hcolumns (row : Int) (gridCells : Std.ExtTreeMap GridCellKey (List TriangleId)) :=
      mem_foldl_cells (fun gridCells (column : Int) => (mem_insert_cell :
          id ∈ cellTriangles (gridCells.insert (toLex (column, row) : GridCellKey)
            (gridCells[(toLex (column, row) : GridCellKey)]?.getD [] ++
              [UInt32.ofNat triangle.2])) cell ↔ _))
        (cellRange minimumX maximumX) gridCells
    refine (mem_foldl_cells (fun gridCells row => hcolumns row gridCells)
      (cellRange minimumZ maximumZ) gridCells).trans (or_congr_right ?_)
    constructor
    · intro hputs
      obtain ⟨row, hrow, column, hcolumn, rfl, hid⟩ := hputs
      rw [mem_cellRange] at hrow hcolumn
      exact ⟨⟨⟨_, _, hminX, hmaxX, hcolumn⟩, ⟨_, _, hminZ, hmaxZ, hrow⟩⟩, hid⟩
    · intro htouches
      obtain ⟨⟨⟨firstX, lastX, hfirstX, hlastX, hcolumn⟩,
        ⟨firstZ, lastZ, hfirstZ, hlastZ, hrow⟩⟩, hid⟩ := htouches
      rw [hminX] at hfirstX
      rw [hmaxX] at hlastX
      rw [hminZ] at hfirstZ
      rw [hmaxZ] at hlastZ
      cases hfirstX
      cases hlastX
      cases hfirstZ
      cases hlastZ
      exact ⟨_, mem_cellRange.mpr hrow, _, mem_cellRange.mpr hcolumn, rfl, hid⟩
  · cases h

/-- A box whose corners are in cells. -/
def InCells (cellSize : R) (box : Aabb2 R) : Prop :=
  ∃ minimumX minimumZ maximumX maximumZ,
    toCellCoordinate box.minimum.x cellSize = some minimumX ∧
    toCellCoordinate box.minimum.z cellSize = some minimumZ ∧
    toCellCoordinate box.maximum.x cellSize = some maximumX ∧
    toCellCoordinate box.maximum.z cellSize = some maximumZ

theorem indexTriangle_inCells {cellSize : R} {triangle : TriangleData R × Nat}
    {gridCells result : Std.ExtTreeMap GridCellKey (List TriangleId)}
    (h : indexTriangle cellSize gridCells triangle = .ok result) :
    InCells cellSize triangle.1.bounds := by
  unfold indexTriangle at h
  dsimp only at h
  split at h
  · exact ⟨_, _, _, _, by assumption, by assumption, by assumption, by assumption⟩
  · cases h

theorem foldlM_indexTriangle {cellSize : R} {triangles : List (TriangleData R × Nat)}
    {gridCells result : Std.ExtTreeMap GridCellKey (List TriangleId)}
    (h : triangles.foldlM (indexTriangle cellSize) gridCells = .ok result) :
    (∀ triangle ∈ triangles, InCells cellSize triangle.1.bounds) ∧
      ∀ cell id, id ∈ cellTriangles result cell ↔ id ∈ cellTriangles gridCells cell ∨
        ∃ triangle ∈ triangles, Touches cellSize triangle.1.bounds cell ∧
          id = UInt32.ofNat triangle.2 := by
  induction triangles generalizing gridCells with
  | nil =>
    cases h
    exact ⟨fun _ hmem => absurd hmem List.not_mem_nil, fun cell id => by simp⟩
  | cons triangle triangles ih =>
    rw [List.foldlM_cons] at h
    obtain ⟨next, hnext, hrest⟩ := except_bind_eq_ok.mp h
    obtain ⟨hcells, hmem⟩ := ih hrest
    constructor
    · intro other hother
      rcases List.mem_cons.mp hother with rfl | hother
      · exact indexTriangle_inCells hnext
      · exact hcells other hother
    · intro cell id
      rw [hmem, indexTriangle_eq_ok hnext, or_assoc]
      simp

/-- The triangles of a cell are those whose bounds touch it, in the order of their numbers. -/
structure IndexedBy (cellSize : R) (triangles : List (TriangleData R))
    (gridCells : Std.ExtTreeMap GridCellKey (List TriangleId)) : Prop where
  inCells : ∀ triangle ∈ triangles, InCells cellSize triangle.bounds
  ascending : ∀ cell, Ascending id (cellTriangles gridCells cell)
  mem_iff : ∀ cell id, id ∈ cellTriangles gridCells cell ↔
    ∃ triangle ∈ triangles.zipIdx, Touches cellSize triangle.1.bounds cell ∧
      id = UInt32.ofNat triangle.2

theorem buildGridIndex_indexedBy {triangles : List (TriangleData R)} {cellSize : R}
    {gridCells : Std.ExtTreeMap GridCellKey (List TriangleId)}
    (h : buildGridIndex triangles cellSize = .ok gridCells) :
    IndexedBy cellSize triangles gridCells := by
  obtain ⟨filled, hfilled, hresult⟩ := except_bind_eq_ok.mp h
  cases hresult
  obtain ⟨hcells, hmem⟩ := foldlM_indexTriangle hfilled
  have hcell (cell : GridCellKey) :
      cellTriangles (filled.map fun _ triangles => unique (sortByKey id triangles)) cell =
        unique (sortByKey id (cellTriangles filled cell)) := by
    unfold cellTriangles
    rw [Std.ExtTreeMap.getElem?_map]
    cases filled[cell]? with
    | none => rfl
    | some triangles => rfl
  refine ⟨?_, ?_, ?_⟩
  · intro triangle htriangle
    obtain ⟨index, hindex⟩ := List.mem_iff_getElem?.mp htriangle
    exact hcells (triangle, index) (List.mk_mem_zipIdx_iff_getElem?.mpr hindex)
  · intro cell
    rw [hcell]
    exact ascending_unique (sortByKey_pairwise _)
  · intro cell id
    rw [hcell, mem_unique, (sortByKey_perm _).mem_iff, hmem]
    simp [cellTriangles]

/-! ## Built meshes -/

theorem toCellCoordinate_eq_some {value cellSize : R} {coordinate : Int} :
    toCellCoordinate value cellSize = some coordinate ↔
      Precision.floorQuotient value cellSize = some coordinate ∧
        -2 ^ 31 ≤ coordinate ∧ coordinate ≤ 2 ^ 31 - 1 := by
  rw [toCellCoordinate, Option.filter_eq_some_iff, Bool.and_eq_true, decide_eq_true_eq,
    decide_eq_true_eq]

/-- The cell of a number between two others is between theirs. -/
theorem toCellCoordinate_between [FloorMonotone R] {low value high cellSize : R}
    {first last : Int} (hlow : Scalar.isFinite low = true)
    (hvalue : Scalar.isFinite value = true) (hhigh : Scalar.isFinite high = true)
    (hsize : Scalar.isFinite cellSize = true) (hpos : ¬ cellSize ≤ 0) (hle : low ≤ value)
    (hge : value ≤ high) (hfirst : toCellCoordinate low cellSize = some first)
    (hlast : toCellCoordinate high cellSize = some last) :
    ∃ coordinate, toCellCoordinate value cellSize = some coordinate ∧
      first ≤ coordinate ∧ coordinate ≤ last := by
  rw [toCellCoordinate_eq_some] at hfirst hlast
  obtain ⟨before, coordinate, hbefore, hcoordinate, hbelow⟩ :=
    FloorMonotone.floorQuotient_mono hlow hvalue hsize hpos hle
  obtain ⟨same, after, hsame, hafter, habove⟩ :=
    FloorMonotone.floorQuotient_mono hvalue hhigh hsize hpos hge
  rw [hfirst.1] at hbefore
  rw [hcoordinate] at hsame
  rw [hlast.1] at hafter
  cases hbefore
  cases hsame
  cases hafter
  exact ⟨coordinate, toCellCoordinate_eq_some.mpr ⟨hcoordinate, by omega, by omega⟩,
    hbelow, habove⟩

namespace NavMesh

/-- What Build checks and computes for the search of a point. -/
structure Indexed (mesh : NavMesh R) : Prop where
  size_finite : Scalar.isFinite mesh.gridCellSize = true
  size_pos : ¬ mesh.gridCellSize ≤ 0
  count : mesh.triangles.length ≤ 2 ^ 32 - 1
  bounds : ∀ triangle ∈ mesh.triangles,
    triangle.bounds.minimum.isFinite = true ∧ triangle.bounds.maximum.isFinite = true
  grid : IndexedBy mesh.gridCellSize mesh.triangles mesh.gridCells

theorem triangleData_bounds {vertices : List (Vec2 R)} {triangle : NavTriangleIndices}
    {data : TriangleData R} (h : triangleData vertices triangle = .ok data) :
    data.bounds.minimum.isFinite = true ∧ data.bounds.maximum.isFinite = true := by
  unfold triangleData at h
  split at h
  · obtain ⟨⟨⟩, -, h⟩ := except_bind_eq_ok.mp h
    obtain ⟨⟨⟩, -, h⟩ := except_bind_eq_ok.mp h
    obtain ⟨center, -, h⟩ := except_bind_eq_ok.mp h
    obtain ⟨bounds, hbounds, h⟩ := except_bind_eq_ok.mp h
    cases h
    obtain ⟨hchecks, hbounds⟩ := throwIf_bind_eq_ok.mp hbounds
    cases hbounds
    simp only [Bool.or_eq_false_iff, Bool.not_eq_false'] at hchecks
    exact hchecks.1.1
  · cases h

theorem build_indexed {vertices : List (Vec2 R)} {triangles : List NavTriangleIndices}
    {gridCellSize : R} {mesh : NavMesh R}
    (h : build vertices triangles gridCellSize = .ok mesh) : mesh.Indexed := by
  unfold build at h
  obtain ⟨hchecks, h⟩ := throwIf_bind_eq_ok.mp h
  obtain ⟨⟨⟩, -, h⟩ := except_bind_eq_ok.mp h
  obtain ⟨data, hdata, h⟩ := except_bind_eq_ok.mp h
  obtain ⟨⟨⟩, -, h⟩ := except_bind_eq_ok.mp h
  obtain ⟨gridCells, hgrid, h⟩ := except_bind_eq_ok.mp h
  cases h
  simp only [Bool.or_eq_false_iff, Bool.not_eq_false', decide_eq_false_iff_not, not_lt] at hchecks
  obtain ⟨⟨⟨-, hfinite⟩, hpos⟩, hcount⟩ := hchecks
  refine ⟨hfinite, hpos, ?_, ?_, buildGridIndex_indexedBy hgrid⟩
  · rw [List.length_map, List.length_zipIdx, except_mapM_length hdata]
    exact hcount
  · intro triangle htriangle
    obtain ⟨⟨source, index⟩, hsource, rfl⟩ := List.mem_map.mp htriangle
    obtain ⟨indices, -, hbounds⟩ := except_mapM_mem hdata (List.fst_mem_of_mem_zipIdx hsource)
    have hsource : source.bounds.minimum.isFinite = true ∧
        source.bounds.maximum.isFinite = true := triangleData_bounds hbounds
    exact hsource

/-- The point is within the bounds of a triangle and in the triangle. -/
def triangleHas (mesh : NavMesh R) (point : Vec2 R) (triangle : TriangleData R) : Bool :=
  triangle.bounds.contains point && mesh.triangleContains triangle point

/-- The numbers of all triangles. -/
def triangleIds (mesh : NavMesh R) : List TriangleId :=
  mesh.triangles.zipIdx.map fun triangle => UInt32.ofNat triangle.2

theorem foldl_first {α β : Type} {has holds : α → Bool} {name : α → β} (items : List α)
    (result : Option β) :
    items.foldl (fun result a =>
        if !has a then result else if holds a && !result.isSome then some (name a) else result)
      result = result.or ((items.find? fun a => has a && holds a).map name) := by
  induction items generalizing result with
  | nil => cases result <;> rfl
  | cons a items ih =>
    rw [List.foldl_cons, ih, List.find?_cons]
    cases has a <;> cases holds a <;> cases result <;> rfl

theorem Indexed.touches [FloorMonotone R] {mesh : NavMesh R} (h : mesh.Indexed)
    {triangle : TriangleData R} (htriangle : triangle ∈ mesh.triangles) {point : Vec2 R}
    (hcontains : triangle.bounds.contains point = true) :
    ∃ cellX cellZ, toCellCoordinate point.x mesh.gridCellSize = some cellX ∧
      toCellCoordinate point.z mesh.gridCellSize = some cellZ ∧
      Touches mesh.gridCellSize triangle.bounds (toLex (cellX, cellZ)) := by
  simp only [Aabb2.contains, Bool.and_eq_true, decide_eq_true_eq] at hcontains
  obtain ⟨⟨⟨⟨hpoint, hminX⟩, hmaxX⟩, hminZ⟩, hmaxZ⟩ := hcontains
  obtain ⟨hpointX, hpointZ⟩ := Bool.and_eq_true_iff.mp hpoint
  obtain ⟨hminimum, hmaximum⟩ := h.bounds triangle htriangle
  obtain ⟨hminimumX, hminimumZ⟩ := Bool.and_eq_true_iff.mp hminimum
  obtain ⟨hmaximumX, hmaximumZ⟩ := Bool.and_eq_true_iff.mp hmaximum
  obtain ⟨firstX, firstZ, lastX, lastZ, hfirstX, hfirstZ, hlastX, hlastZ⟩ :=
    h.grid.inCells triangle htriangle
  obtain ⟨cellX, hcellX, hcolumn⟩ := toCellCoordinate_between hminimumX hpointX hmaximumX
    h.size_finite h.size_pos hminX hmaxX hfirstX hlastX
  obtain ⟨cellZ, hcellZ, hrow⟩ := toCellCoordinate_between hminimumZ hpointZ hmaximumZ
    h.size_finite h.size_pos hminZ hmaxZ hfirstZ hlastZ
  exact ⟨cellX, cellZ, hcellX, hcellZ,
    ⟨firstX, lastX, hfirstX, hlastX, hcolumn⟩, ⟨firstZ, lastZ, hfirstZ, hlastZ, hrow⟩⟩

section Search

variable {mesh : NavMesh R}

/-- A triangle by its number. -/
theorem Indexed.getElem?_id (h : mesh.Indexed) {triangle : TriangleData R} {index : Nat}
    (hindex : mesh.triangles[index]? = some triangle) :
    mesh.triangles[(UInt32.ofNat index).toNat]? = some triangle := by
  have hlt : index < mesh.triangles.length := (List.getElem?_eq_some_iff.mp hindex).1
  have hsmall : index < UInt32.size := by
    have hcount := h.count
    rw [UInt32.size]
    omega
  rw [UInt32.toNat_ofNat_of_lt' hsmall]
  exact hindex

theorem Indexed.ascending_triangleIds (h : mesh.Indexed) : Ascending id mesh.triangleIds := by
  have hids : mesh.triangleIds = (List.range mesh.triangles.length).map UInt32.ofNat := by
    rw [triangleIds, List.range_eq_range', ← List.zipIdx_map_snd, List.map_map]
    rfl
  rw [hids]
  refine List.pairwise_map.mpr (List.pairwise_lt_range.imp_of_mem ?_)
  intro first second hfirst hsecond hlt
  have hcount := h.count
  rw [List.mem_range] at hfirst hsecond
  show UInt32.ofNat first < UInt32.ofNat second
  rw [UInt32.lt_iff_toNat_lt, UInt32.toNat_ofNat', UInt32.toNat_ofNat']
  omega

/-- The linear search is for the first number of a triangle that has the point. -/
theorem Indexed.findContainingTriangleLinear_eq (h : mesh.Indexed) {point : Vec2 R}
    (hpoint : point.isFinite = true) :
    mesh.findContainingTriangleLinear point = .ok (mesh.triangleIds.find? fun triangle =>
      mesh.triangles[triangle.toNat]?.any (mesh.triangleHas point)) := by
  unfold findContainingTriangleLinear
  rw [hpoint]
  refine congrArg Except.ok ?_
  rw [foldl_first, Option.none_or, triangleIds, List.find?_map]
  refine congrArg (Option.map _) (List.find?_congr fun triangle hmem => ?_)
  rw [Function.comp_apply, h.getElem?_id (List.mem_zipIdx_iff_getElem?.mp hmem)]
  rfl

/-- The grid has the same triangles of a point as the linear search. -/
theorem Indexed.findContainingTriangleGrid_eq [FloorMonotone R] (h : mesh.Indexed)
    (point : Vec2 R) :
    mesh.findContainingTriangleGrid point = mesh.findContainingTriangleLinear point := by
  cases hpoint : point.isFinite with
  | false =>
    unfold findContainingTriangleGrid findContainingTriangleLinear
    rw [hpoint]
    rfl
  | true =>
    rw [h.findContainingTriangleLinear_eq hpoint]
    unfold findContainingTriangleGrid
    rw [hpoint]
    have htouches (triangle : TriangleId)
        (hhas : mesh.triangles[triangle.toNat]?.any (mesh.triangleHas point) = true) :
        ∃ data, mesh.triangles[triangle.toNat]? = some data ∧
          ∃ cellX cellZ, toCellCoordinate point.x mesh.gridCellSize = some cellX ∧
            toCellCoordinate point.z mesh.gridCellSize = some cellZ ∧
            Touches mesh.gridCellSize data.bounds (toLex (cellX, cellZ)) := by
      obtain ⟨data, hdata, hcontains⟩ := Option.any_eq_true _ _ |>.mp hhas
      exact ⟨data, hdata, h.touches (List.mem_of_getElem? hdata)
        (Bool.and_eq_true_iff.mp hcontains).1⟩
    have hnone (hcell : ∀ cellX cellZ, toCellCoordinate point.x mesh.gridCellSize = some cellX →
        toCellCoordinate point.z mesh.gridCellSize = some cellZ → False) :
        mesh.triangleIds.find? (fun triangle =>
          mesh.triangles[triangle.toNat]?.any (mesh.triangleHas point)) = none := by
      refine List.find?_eq_none.mpr fun triangle _ hhas => ?_
      obtain ⟨data, -, cellX, cellZ, hcellX, hcellZ, -⟩ := htouches triangle hhas
      exact hcell cellX cellZ hcellX hcellZ
    cases hcellX : toCellCoordinate point.x mesh.gridCellSize with
    | none =>
      rw [hnone fun cellX cellZ h _ => nomatch hcellX.symm.trans h]
      rfl
    | some cellX =>
      cases hcellZ : toCellCoordinate point.z mesh.gridCellSize with
      | none =>
        rw [hnone fun cellX cellZ _ h => nomatch hcellZ.symm.trans h]
        rfl
      | some cellZ =>
        refine congrArg Except.ok ((h.grid.ascending (toLex (cellX, cellZ))).find?_eq
          h.ascending_triangleIds fun triangle hhas => ?_)
        obtain ⟨data, hdata, column, row, hcolumn, hrow, htouch⟩ := htouches triangle hhas
        rw [hcellX] at hcolumn
        rw [hcellZ] at hrow
        cases hcolumn
        cases hrow
        have howner : (data, triangle.toNat) ∈ mesh.triangles.zipIdx :=
          List.mk_mem_zipIdx_iff_getElem?.mpr hdata
        have hid : triangle = UInt32.ofNat triangle.toNat := UInt32.ofNat_toNat.symm
        refine iff_of_true ?_ (List.mem_map.mpr ⟨_, howner, hid.symm⟩)
        exact (h.grid.mem_iff _ _).mpr ⟨_, howner, htouch, hid⟩

end Search

/-- On every mesh that Build accepts the grid finds the triangle of the linear search, for
the floats of the program and every point. -/
theorem pointLocation_agrees {vertices : List (Vec2 Float32)}
    {triangles : List NavTriangleIndices} {gridCellSize : Float32} {mesh : NavMesh Float32}
    (h : build vertices triangles gridCellSize = .ok mesh) (point : Vec2 Float32) :
    mesh.findContainingTriangleGrid point = mesh.findContainingTriangleLinear point :=
  (build_indexed h).findContainingTriangleGrid_eq point

/-- A point on the edge of two triangles, in the corner of four cells. -/
theorem pointLocation_agrees_edge :
    ∃ mesh : NavMesh Float32,
      build [⟨0, 0⟩, ⟨8, 0⟩, ⟨0, 8⟩, ⟨8, 8⟩] [⟨1, 3, 2⟩, ⟨0, 1, 2⟩] = .ok mesh ∧
      mesh.findContainingTriangleLinear ⟨4, 4⟩ = .ok (some 0) ∧
      mesh.findContainingTriangleGrid ⟨4, 4⟩ = .ok (some 0) := by
  have hbuild : (build [⟨0, 0⟩, ⟨8, 0⟩, ⟨0, 8⟩, ⟨8, 8⟩] [⟨1, 3, 2⟩, ⟨0, 1, 2⟩]
      : Except Exception (NavMesh Float32)).toOption.any (fun mesh =>
        (mesh.findContainingTriangleLinear ⟨4, 4⟩).toOption.join == some 0) = true := by
    decide +kernel
  obtain ⟨mesh, hmesh, hfound⟩ := except_any hbuild
  have hlinear := except_toOption_join (eq_of_beq hfound)
  refine ⟨mesh, hmesh, hlinear, ?_⟩
  rw [pointLocation_agrees hmesh, hlinear]

end NavMesh

end SurvivalArena
