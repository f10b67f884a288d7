import GlyphGrid.Font.Database

/-!
# Catalogues of fonts

A catalogue is a database of faces that are all known.  A family is found by its exact name; among
its faces the most regular one is taken: first by width, then by slope, then by weight.
-/

namespace GlyphGrid

/-- The installed faces. -/
structure Catalogue where
  /-- The faces, in one file. -/
  faces : List Face
  monospaceFamily : String

/-- A face of a catalogue with its place there. -/
structure ListedFace where
  index : Nat
  face : Face

/-- What a listed face says of itself. -/
def ListedFace.record (l : ListedFace) : FontRecord :=
  ⟨l.index, [l.face.family], l.face.isMonospaced, l.face.weight, l.face.style⟩

namespace Catalogue

/-- The family that stands for monospace fonts unless another one is named. -/
def usualMonospace : String := "Courier New"

/-- The faces with their places, counted from `index`. -/
def number (index : Nat) : List Face → List ListedFace
  | [] => []
  | f :: rest => ⟨index, f⟩ :: number (index + 1) rest

/-- The faces with their places. -/
def listed (c : Catalogue) : List ListedFace := number 0 c.faces

/-- The normal width. -/
def normalStretch : Nat := 5

/-- How far a width is from normal; narrower ones come before wider ones. -/
def stretchRank (stretch : Nat) : Nat :=
  if stretch ≤ normalStretch then normalStretch - stretch else stretch + normalStretch

/-- How far a slope is from upright. -/
def styleRank : FontStyle → Nat
  | .normal => 0
  | .oblique => 1
  | .italic => 2

/-- How far a weight is from regular: regular, medium, then lighter ones, then heavier ones. -/
def weightRank (weight : Nat) : Nat :=
  if weight = regularWeight then 0
  else if weight = 500 then 1
  else if weight < regularWeight then 2 + (regularWeight - weight)
  else 2 + weight

/-- The faces that are first under a rank. -/
def narrow (rank : Face → Nat) (faces : List ListedFace) : List ListedFace :=
  match firstLeast? (fun l => rank l.face) faces with
  | none => []
  | some best => faces.filter fun l => rank l.face == rank best.face

/-- The regular face of a family. -/
def regular? (c : Catalogue) (family : String) : Option ListedFace :=
  let faces := c.listed.filter (·.face.family == family)
  let faces := narrow (stretchRank ·.stretch) faces
  let faces := narrow (styleRank ·.style) faces
  (narrow (weightRank ·.weight) faces).head?

/-- The catalogue as a database. -/
def database (c : Catalogue) : FontDatabase where
  records := c.listed.map ListedFace.record
  monospaceFamily := c.monospaceFamily
  regular? family := (c.regular? family).map (·.index)
  file? id := some (.readable c.faces, id)

end Catalogue

/-- The stack that a catalogue has for a family, or for monospace text. -/
def FontStack.find (c : Catalogue) (family? : Option String) :
    Noted (Except GlyphError FontStack) := FontStack.select c.database family?

end GlyphGrid
