import GlyphGrid.Config.Document
import GlyphGrid.Font.Catalogue

/-!
# Catalogues as YAML

`Catalogue.parse?` reads the installed faces from a document: a mapping with the family that stands
for monospace fonts and a sequence of faces.  A face is a mapping too, and what it leaves out has a
usual value.
-/

namespace GlyphGrid

namespace Yaml.Node

/-- The integer that a node holds. -/
def integer? : Node → Option Int
  | .scalar _ s =>
    match s.text.toList with
    | '-' :: digits => (Yaml.unsigned? (String.ofList digits)).map fun n => -(n : Int)
    | _ => (Yaml.unsigned? s.text).map Int.ofNat
  | _ => none

/-- The number that a node holds. -/
def natural? (n : Node) : Option Nat := n.integer?.bind Int.toNat?

/-- The truth value that a node holds. -/
def truth? (n : Node) : Option Bool :=
  n.text?.bind fun text =>
    if !isTruthWord text then none
    else some (text == "true" || text == "True" || text == "TRUE")

/-- What the items of a sequence hold. -/
def items? {α : Type} (read : Node → Option α) : Node → Option (List α)
  | .sequence items => items.mapM read
  | _ => none

/-- The entries of a mapping. -/
def entries? : Node → Option (List (Node × Node))
  | .mapping entries => some entries
  | _ => none

/-- The rectangle that a node holds: left, bottom, right and top. -/
def rect? (n : Node) : Option Rect :=
  match n.items? integer? with
  | some [left, bottom, right, top] => some ⟨left, bottom, right, top⟩
  | _ => none

/-- The layer that a node holds. -/
def layer? (n : Node) : Option ColorLayer := do
  let entries ← n.entries?
  let area ← field? entries "area" ⟨0, 0, 0, 0⟩ rect?
  let color ← field? entries "color" ⟨0, 0, 0, 255⟩ color?
  some ⟨area, color⟩

/-- The glyph that a node holds.  Layers take the place of plain areas. -/
def glyph? (n : Node) : Option FaceGlyph := do
  let entries ← n.entries?
  let first ← field? entries "first" 0 natural?
  let last ← field? entries "last" first natural?
  let advance ← field? entries "advance" 0 integer?
  let areas ← field? entries "areas" [] (items? rect?)
  let layers ← field? entries "layers" [] (items? layer?)
  some ⟨first, last, advance, if layers.isEmpty then .outline areas else .layers layers⟩

/-- The slope that a node names. -/
def style? (n : Node) : Option FontStyle :=
  match n.text? with
  | some "normal" => some .normal
  | some "italic" => some .italic
  | some "oblique" => some .oblique
  | _ => none

/-- The face that a node holds. -/
def face? (n : Node) : Option Face := do
  let entries ← n.entries?
  let family ← field? entries "family" "" text?
  let unitsPerEm ← field? entries "units_per_em" 16 natural?
  let ascent ← field? entries "ascent" 12 integer?
  let descent ← field? entries "descent" 4 integer?
  let leading ← field? entries "leading" 0 integer?
  let missingAdvance ← field? entries "missing_advance" 0 integer?
  let missingAreas ← field? entries "missing_areas" [] (items? rect?)
  let glyphs ← field? entries "glyphs" [] (items? glyph?)
  let isMonospaced ← field? entries "monospaced" true truth?
  let weight ← field? entries "weight" regularWeight natural?
  let style ← field? entries "style" .normal style?
  let stretch ← field? entries "stretch" Catalogue.normalStretch natural?
  some ⟨family, unitsPerEm, ascent, descent, leading, missingAdvance, missingAreas, glyphs,
    isMonospaced, weight, style, stretch, false⟩

/-- The catalogue that a node holds. -/
def catalogue? (n : Node) : Option Catalogue := do
  let entries ← n.entries?
  let faces ← field? entries "faces" [] (items? face?)
  let family ← field? entries "monospace" Catalogue.usualMonospace text?
  some ⟨faces, family⟩

end Yaml.Node

namespace Catalogue

/-- The catalogue in a text, if it holds one. -/
def parse? (text : List Char) : Option Catalogue :=
  (Yaml.Node.read? text).bind fun n? => n?.bind (·.catalogue?)

/-- The catalogue in the bytes of a file, which is empty if they hold none. -/
def ofBytes (bytes : List UInt8) : Catalogue :=
  ((Utf8.decode? bytes).bind parse?).getD ⟨[], usualMonospace⟩

end Catalogue
end GlyphGrid
