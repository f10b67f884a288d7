import GlyphGrid.Text.Grapheme

/-!
# Laying out cells

A text is laid out in rows of cells, one grapheme cluster in each.  A line end closes a row and is
no cell; a row that is full closes as soon as another cell comes.  `cellOrigin` and `canvasSize`
place the cells on a canvas whose coordinates have 32 bits.
-/

namespace GlyphGrid

/-- Rows of cells. -/
abbrev CellGrid := List (List String)

namespace CellGrid

/-- Whether a cluster ends a line. -/
def isLineEnd (cluster : String) : Bool := cluster == "\n" || cluster == "\r\n"

/-- Whether a row of `count` cells has room for another; zero columns set no limit. -/
def hasRoom (columns count : Nat) : Bool := columns == 0 || count < columns

/-- Lays out clusters, the last row so far being `row`, in reverse. -/
def place (columns : Nat) (row : List String) : List String → CellGrid
  | [] => [row.reverse]
  | cluster :: rest =>
    if isLineEnd cluster then row.reverse :: place columns [] rest
    else if hasRoom columns row.length then place columns (cluster :: row) rest
    else row.reverse :: place columns [cluster] rest

/-- Lays out a text in rows of at most `columns` cells; zero columns set no limit. -/
def layout (text : String) (columns : Nat) : CellGrid :=
  place columns [] (Text.clusters text)

/-- The number of cells in the longest row. -/
def columnCount (grid : CellGrid) : Nat :=
  (grid.map List.length).foldl max 0

/-- Coordinates lie below this bound, which is `2 ^ 32`. -/
def coordinateLimit : Nat := 4294967296

/-- The top left corner of a cell, if the coordinates stay below their bound. -/
def cellOrigin (column row width height : Nat) : Option (Nat × Nat) :=
  if column < coordinateLimit ∧ column * width < coordinateLimit
      ∧ row < coordinateLimit ∧ row * height < coordinateLimit then
    some (column * width, row * height)
  else none

/-- The size of a canvas that holds a grid, which is at least one cell wide. -/
def canvasSize (grid : CellGrid) (width height : Nat) : Option (Nat × Nat) :=
  cellOrigin (max 1 (columnCount grid)) grid.length width height

/-- The number of cells. -/
def cellCount (grid : CellGrid) : Nat := grid.foldr (fun row count => row.length + count) 0

end CellGrid
end GlyphGrid
