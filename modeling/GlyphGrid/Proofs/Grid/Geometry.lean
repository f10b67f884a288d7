import Mathlib.Tactic.Lemma
import GlyphGrid.Proofs.Grid.RowMajor

/-!
# Where the cells of a grid lie on its canvas

`CellGrid.canvasSize` is computed before anything is drawn, from the longest row and the number of
rows, and `CellGrid.cellOrigin` while the cells are drawn, from the numbers of each of them.  Both
give up where a coordinate does not fit in 32 bits.  `CoversGrid` says that they agree: on a canvas
of that size every cell has an origin, the pixels of the cell lie on the canvas, and no pixel
belongs to two cells.

Everything rests on two facts.  `cellOrigin_eq_some_iff` says for all columns and rows when there
is an origin and which it is, and `length_le_columnCount` bounds the column of a cell by the number
of columns that the canvas was made for.
-/

namespace GlyphGrid

/-- Whether a pixel belongs to the cell whose top left pixel is `origin`. -/
def InCellAt (origin : Nat × Nat) (width height x y : Nat) : Prop :=
  (origin.1 ≤ x ∧ x < origin.1 + width) ∧ origin.2 ≤ y ∧ y < origin.2 + height

namespace CellGrid

/-- A canvas of size `size` that was made for a grid of cells of `width` by `height` pixels. -/
structure CoversGrid (grid : CellGrid) (width height : Nat) (size : Nat × Nat) : Prop where
  /-- The canvas is as wide as the longest row, and at least as wide as one cell. -/
  width_eq : ∃ columns, size.1 = columns * width ∧ 1 ≤ columns ∧
    (∀ texts ∈ grid, texts.length ≤ columns) ∧
    (columns = 1 ∨ ∃ texts ∈ grid, texts.length = columns)
  height_eq : size.2 = grid.length * height
  /-- Every cell has an origin. -/
  origin_eq : ∀ cell ∈ grid.rowMajor, cellOrigin cell.column cell.row width height
    = some (cell.column * width, cell.row * height)
  /-- No cell goes beyond the canvas. -/
  inside : ∀ cell ∈ grid.rowMajor, ∀ x y,
    cellOrigin cell.column cell.row width height = some (x, y) →
      x + width ≤ size.1 ∧ y + height ≤ size.2
  /-- No pixel belongs to two cells. -/
  apart : ∀ a ∈ grid.rowMajor, ∀ b ∈ grid.rowMajor, a ≠ b → ∀ origin other x y,
    cellOrigin a.column a.row width height = some origin →
    cellOrigin b.column b.row width height = some other →
      ¬ (InCellAt origin width height x y ∧ InCellAt other width height x y)

/-! ## Origins -/

/-- A cell has an origin if its coordinates fit, and then it is their exact values.  That its
numbers fit by themselves follows, as cells are at least a pixel wide and high. -/
lemma cellOrigin_eq_some_iff {width height : Nat} (hwidth : 0 < width) (hheight : 0 < height)
    (column row : Nat) (origin : Nat × Nat) :
    cellOrigin column row width height = some origin ↔
      (column * width < 2 ^ 32 ∧ row * height < 2 ^ 32) ∧
        origin = (column * width, row * height) := by
  have horigin := GridCell.cellOrigin_eq ⟨row, column, ""⟩ hwidth hheight
  rw [horigin]
  by_cases hfits : GridCell.Fits ⟨row, column, ""⟩ width height
  · rw [if_pos hfits, Option.some_inj]
    exact ⟨fun h => ⟨hfits, h.symm⟩, fun h => h.2.symm⟩
  · rw [if_neg hfits]
    exact ⟨nofun, fun h => absurd h.1 hfits⟩

/-! ## The longest row -/

lemma columnCount_eq (grid : CellGrid) :
    grid.columnCount = (grid.map List.length).max?.getD 0 := by
  rw [columnCount, List.foldl_max, Nat.zero_max]

/-- No row is longer than the longest. -/
lemma length_le_columnCount {grid : CellGrid} {texts : List String} (h : texts ∈ grid) :
    texts.length ≤ grid.columnCount := by
  rw [columnCount_eq]
  exact List.le_max?_getD_of_mem (List.mem_map_of_mem h)

/-- If there is a row with cells at all, the longest is one of them. -/
lemma exists_length_eq_columnCount {grid : CellGrid} (h : 0 < grid.columnCount) :
    ∃ texts ∈ grid, texts.length = grid.columnCount := by
  rw [columnCount_eq] at h ⊢
  cases hmax : (grid.map List.length).max? with
  | none =>
    rw [hmax] at h
    exact absurd h (Nat.lt_irrefl 0)
  | some columns =>
    obtain ⟨hmem, -⟩ := List.max?_eq_some_iff.mp hmax
    exact List.mem_map.mp hmem

/-- A number of columns that bounds the rows, and is needed by one of them, is that of the
canvas. -/
lemma max_columnCount_eq {grid : CellGrid} {columns : Nat} (hpos : 1 ≤ columns)
    (hbound : ∀ texts ∈ grid, texts.length ≤ columns)
    (hneeded : columns = 1 ∨ ∃ texts ∈ grid, texts.length = columns) :
    max 1 grid.columnCount = columns := by
  have hle : grid.columnCount ≤ columns := by
    rcases Nat.eq_zero_or_pos grid.columnCount with hzero | hcells
    · rw [hzero]
      exact Nat.zero_le _
    · obtain ⟨texts, htexts, hlength⟩ := exists_length_eq_columnCount hcells
      rw [← hlength]
      exact hbound texts htexts
  rcases hneeded with hone | ⟨texts, htexts, hlength⟩
  · omega
  · have hlongest := length_le_columnCount htexts
    omega

/-! ## Cells of a grid -/

/-- The row of a cell is one of the grid, and its column one of that row. -/
lemma lt_of_mem_rowMajor {grid : CellGrid} {cell : GridCell} (h : cell ∈ grid.rowMajor) :
    cell.row < grid.length ∧ cell.column < grid.columnCount := by
  obtain ⟨texts, hrow, hcolumn⟩ := (grid.mem_rowMajor cell).mp h
  obtain ⟨hrow_lt, -⟩ := List.getElem?_eq_some_iff.mp hrow
  obtain ⟨hcolumn_lt, -⟩ := List.getElem?_eq_some_iff.mp hcolumn
  have hlongest := length_le_columnCount (List.mem_of_getElem? hrow)
  exact ⟨hrow_lt, hcolumn_lt.trans_le hlongest⟩

/-- A grid has one cell at a place. -/
lemma eq_of_mem_rowMajor {grid : CellGrid} {a b : GridCell} (ha : a ∈ grid.rowMajor)
    (hb : b ∈ grid.rowMajor) (hrow : a.row = b.row) (hcolumn : a.column = b.column) : a = b := by
  obtain ⟨texts, hrow_a, hcolumn_a⟩ := (grid.mem_rowMajor a).mp ha
  obtain ⟨others, hrow_b, hcolumn_b⟩ := (grid.mem_rowMajor b).mp hb
  rw [hrow, hrow_b, Option.some_inj] at hrow_a
  rw [← hrow_a, hcolumn, hcolumn_b, Option.some_inj] at hcolumn_a
  cases a
  cases b
  simp_all only

/-- The last pixel of a cell comes before the end of the last cell. -/
lemma mul_add_le_of_lt {n count size : Nat} (h : n < count) : n * size + size ≤ count * size := by
  rw [← Nat.succ_mul]
  exact Nat.mul_le_mul_right size h

/-- A coordinate says in which column, or in which row, it lies. -/
lemma div_eq_of_inside {n size x : Nat} (h : n * size ≤ x ∧ x < n * size + size) :
    x / size = n := by
  rw [← Nat.succ_mul] at h
  exact Nat.div_eq_of_lt_le h.1 h.2

/-! ## The canvas -/

/-- A canvas size makes room for the cells that it was computed from. -/
lemma coversGrid_of_canvasSize {grid : CellGrid} {width height : Nat} {size : Nat × Nat}
    (hwidth : 0 < width) (hheight : 0 < height)
    (h : grid.canvasSize width height = some size) : grid.CoversGrid width height size := by
  obtain ⟨⟨hwide, hhigh⟩, rfl⟩ := (cellOrigin_eq_some_iff hwidth hheight _ _ _).mp h
  have hinside : ∀ cell ∈ grid.rowMajor,
      cell.column * width + width ≤ max 1 grid.columnCount * width ∧
        cell.row * height + height ≤ grid.length * height := by
    intro cell hcell
    obtain ⟨hrow, hcolumn⟩ := lt_of_mem_rowMajor hcell
    exact ⟨mul_add_le_of_lt (hcolumn.trans_le (Nat.le_max_right _ _)), mul_add_le_of_lt hrow⟩
  refine ⟨⟨max 1 grid.columnCount, rfl, Nat.le_max_left _ _, ?_, ?_⟩, rfl, ?_, ?_, ?_⟩
  · exact fun texts htexts => (length_le_columnCount htexts).trans (Nat.le_max_right _ _)
  · rcases Nat.eq_zero_or_pos grid.columnCount with hzero | hpos
    · rw [hzero]
      exact .inl rfl
    · rw [Nat.max_eq_right hpos]
      exact .inr (exists_length_eq_columnCount hpos)
  · intro cell hcell
    obtain ⟨hright, hbottom⟩ := hinside cell hcell
    rw [cellOrigin_eq_some_iff hwidth hheight]
    exact ⟨⟨by omega, by omega⟩, rfl⟩
  · intro cell hcell x y horigin
    obtain ⟨-, hxy⟩ := (cellOrigin_eq_some_iff hwidth hheight _ _ _).mp horigin
    rw [Prod.mk.injEq] at hxy
    rw [hxy.1, hxy.2]
    exact hinside cell hcell
  · rintro a ha b hb hne origin other x y horigin hother ⟨hin_a, hin_b⟩
    obtain ⟨-, rfl⟩ := (cellOrigin_eq_some_iff hwidth hheight _ _ _).mp horigin
    obtain ⟨-, rfl⟩ := (cellOrigin_eq_some_iff hwidth hheight _ _ _).mp hother
    -- A pixel of both cells has the column and the row of both.
    have hcolumn : a.column = b.column := by
      rw [← div_eq_of_inside hin_a.1, div_eq_of_inside hin_b.1]
    have hrow : a.row = b.row := by
      rw [← div_eq_of_inside hin_a.2, div_eq_of_inside hin_b.2]
    exact hne (eq_of_mem_rowMajor ha hb hrow hcolumn)

/-- A canvas size exists exactly if there is a canvas for the grid whose size fits in 32 bits. -/
lemma canvasSize_eq_some_iff {grid : CellGrid} {width height : Nat} {size : Nat × Nat}
    (hwidth : 0 < width) (hheight : 0 < height) : grid.canvasSize width height = some size ↔
      grid.CoversGrid width height size ∧ size.1 < 2 ^ 32 ∧ size.2 < 2 ^ 32 := by
  constructor
  · intro h
    obtain ⟨hfits, hsize⟩ := (cellOrigin_eq_some_iff hwidth hheight _ _ _).mp h
    refine ⟨coversGrid_of_canvasSize hwidth hheight h, ?_⟩
    rw [hsize]
    exact hfits
  · rintro ⟨hcovers, hfits⟩
    obtain ⟨columns, hwide, hpos, hbound, hneeded⟩ := hcovers.width_eq
    rw [hwide, hcovers.height_eq] at hfits
    rw [canvasSize, max_columnCount_eq hpos hbound hneeded,
      cellOrigin_eq_some_iff hwidth hheight, ← hwide, ← hcovers.height_eq]
    exact ⟨by rwa [hwide, hcovers.height_eq], rfl⟩

/-- **The canvas of a grid has room for its cells.**  A canvas size exists where it fits in 32 bits,
and then every cell of the grid has an origin, lies on the canvas and shares no pixel with another;
and whatever the grid, a column and a row have an origin exactly if their coordinates fit. -/
theorem canvasSize_geometry {width height : Nat} (hwidth : 0 < width) (hheight : 0 < height) :
    (∀ (grid : CellGrid) (size : Nat × Nat), grid.canvasSize width height = some size ↔
      grid.CoversGrid width height size ∧ size.1 < 2 ^ 32 ∧ size.2 < 2 ^ 32) ∧
    ∀ (column row : Nat) (origin : Nat × Nat),
      cellOrigin column row width height = some origin ↔
        (column * width < 2 ^ 32 ∧ row * height < 2 ^ 32) ∧
          origin = (column * width, row * height) :=
  ⟨fun _ _ => canvasSize_eq_some_iff hwidth hheight, cellOrigin_eq_some_iff hwidth hheight⟩

/-- Rows of three cells, of none and of one.  The cell of the last row begins where the canvas has
one more row of cells, and an origin exists up to the last column that fits. -/
theorem canvasSize_geometry_of_ragged_rows :
    canvasSize [["a", "b", "c"], [], ["d"]] 10 20 = some (30, 60) ∧
      CoversGrid [["a", "b", "c"], [], ["d"]] 10 20 (30, 60) ∧
      cellOrigin 0 2 10 20 = some (0, 40) ∧
      cellOrigin 429496729 0 10 20 = some (4294967290, 0) ∧
      cellOrigin 429496730 0 10 20 = none := by
  obtain ⟨hcovers, horigin⟩ := @canvasSize_geometry 10 20 (by decide) (by decide)
  have hragged := ((hcovers [["a", "b", "c"], [], ["d"]] (30, 60)).mp rfl).1
  refine ⟨rfl, hragged, hragged.origin_eq ⟨2, 0, "d"⟩ ?_, ?_, ?_⟩
  · exact (mem_rowMajor _ _).mpr ⟨["d"], rfl, rfl⟩
  · exact (horigin _ _ _).mpr (by decide)
  · rw [Option.eq_none_iff_forall_ne_some]
    intro origin h
    exact absurd ((horigin _ _ _).mp h).1 (by decide)

end CellGrid
end GlyphGrid
