import GlyphGrid.Cache.InPlace
import GlyphGrid.Grid.Layout

/-!
# Drawing a grid

`drawGrid` draws the cells of a grid row by row, each at its place, and counts those that were
drawn and those that had to be left out.  A cell that cannot be drawn leaves the others alone.
-/

namespace GlyphGrid

/-- How many cells were drawn and how many left out. -/
structure DrawCount where
  drawn : Nat
  skipped : Nat
  deriving DecidableEq

variable {C F L S : Type}

/-- A grid in the course of being drawn. -/
structure Drawing (C F L S : Type) where
  cache : GlyphCache C F L
  state : S
  buffer : CellBuffer
  count : DrawCount

namespace Drawing

/-- One more cell that was left out. -/
def skip (d : Drawing C F L S) : Drawing C F L S :=
  ⟨d.cache, d.state, d.buffer, ⟨d.count.drawn, d.count.skipped + 1⟩⟩

/-- Draws one cell. -/
def cell (surface : DrawingSurface S F L) (row column : Nat) (d : Drawing C F L S)
    (cluster : String) : Noted (Drawing C F L S) :=
  match CellGrid.cellOrigin column row d.cache.width d.cache.height with
  | none => do
    .note .warn .grid s!"grid: cell {row}:{column} lies outside the pixel range"
    pure d.skip
  | some (x, y) => do
    let buffer := d.buffer.fill cluster
    match ← d.cache.drawInPlace surface d.state buffer x y with
    | (cache, state, .ok ()) => pure ⟨cache, state, buffer, ⟨d.count.drawn + 1, d.count.skipped⟩⟩
    | (cache, state, .error e) =>
      .note .warn .grid (s!"grid: skipping cell {row}:{column} " ++ Text.Quoted.quote cluster
        ++ ": " ++ e.message)
      pure (Drawing.skip ⟨cache, state, buffer, d.count⟩)

/-- Draws the cells of a row from a column on. -/
def cells (surface : DrawingSurface S F L) (row : Nat) :
    Nat → Drawing C F L S → List String → Noted (Drawing C F L S)
  | _, d, [] => pure d
  | column, d, cluster :: rest => do
    let d ← d.cell surface row column cluster
    cells surface row (column + 1) d rest

/-- Draws rows from a row on. -/
def rows (surface : DrawingSurface S F L) :
    Nat → Drawing C F L S → CellGrid → Noted (Drawing C F L S)
  | _, d, [] => pure d
  | row, d, clusters :: rest => do
    let d ← cells surface row 0 d clusters
    rows surface (row + 1) d rest

end Drawing

/-- Draws every cell of a grid at its place. -/
def drawGrid (cache : GlyphCache C F L) (surface : DrawingSurface S F L) (state : S)
    (grid : CellGrid) : Noted (GlyphCache C F L × S × DrawCount) := do
  let d ← Drawing.rows surface 0 ⟨cache, state, .empty, ⟨0, 0⟩⟩ grid
  .note .debug .grid (s!"grid: drew {d.count.drawn} cells, skipped {d.count.skipped} "
    ++ s!"({d.cache.size} glyphs cached)")
  pure (d.cache, d.state, d.count)

end GlyphGrid
