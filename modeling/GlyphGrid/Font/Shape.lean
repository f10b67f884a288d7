import GlyphGrid.Font.Advance
import GlyphGrid.Font.Segment
import GlyphGrid.Shaping.Basic

/-!
# Shaping with a stack of faces

`FontStack.engine` shapes text with the faces of a stack.  A `ShapingContext` is a stack at a size;
`ShapingContext.shapeRuns` cuts a text into segments and shapes each of them with its face, and a
`TextLayout` is a text with its runs, which can be shaped again.

Sizes are computed in single precision, step by step.
-/

namespace GlyphGrid

/-- A face at a size. -/
structure FontFace where
  font : LoadedFace
  index : Nat
  pixelSize : Rat

/-- A stack of faces at a size. -/
structure ShapingContext where
  fonts : FontStack
  pixelSize : Rat
  /-- The height of the primary face above the baseline. -/
  ascent : Fixed
  lineHeight : Fixed

/-- A text with its runs. -/
structure TextLayout where
  text : String
  context : ShapingContext
  runs : List (GlyphRun FontFace)

/-- The single-precision number nearest to `q`. -/
def single (q : Rat) : Rat := BinaryFormat.single.nearest q

namespace ShapingContext

/-- Fixed-point units to a font unit of a face. -/
def unitScale (context : ShapingContext) (face : Face) : Rat :=
  single (single (context.pixelSize / (max 1 face.unitsPerEm : Nat)) * Fixed.unitsPerPixel)

/-- A distance in font units, scaled. -/
def scaled (scale : Rat) (units : Int) : Fixed :=
  Fixed.ofBinary (BinaryFormat.single.round (units * scale))

/-- Shapes characters that begin at a byte with one face. -/
def shapeChars (context : ShapingContext) (face : Face) (start : Nat) (cs : List Char) :
    GlyphString :=
  let scale := context.unitScale face
  ⟨(face.place start cs).map fun g => ⟨g.glyphId, g.cluster, scaled scale g.advance, 0, 0⟩⟩

/-- Shapes a segment. -/
def shapeSegment (context : ShapingContext) (s : Segment) :
    Except GlyphError (GlyphRun FontFace) :=
  match context.fonts.get? s.face with
  | none => .error (.shapingFailed s!"no face at index {s.face}")
  | some font =>
    .ok ⟨⟨font, s.face, context.pixelSize⟩, context.shapeChars font.face s.start s.chars⟩

/-- Shapes segments, one after the other. -/
def shapeSegments (context : ShapingContext) :
    List Segment → Except GlyphError (List (GlyphRun FontFace))
  | [] => .ok []
  | s :: rest =>
    match context.shapeSegment s with
    | .error e => .error e
    | .ok run => (context.shapeSegments rest).map (run :: ·)

/-- The runs of a text. -/
def shapeRuns (context : ShapingContext) (text : String) :
    Except GlyphError (List (GlyphRun FontFace)) :=
  context.shapeSegments (Segment.list context.fonts text.toList)

/-- The shape of a text whose runs are known. -/
def clusterOf (context : ShapingContext) (text : String) (runs : List (GlyphRun FontFace)) :
    ShapedCluster FontFace TextLayout where
  logical := ⟨0, 0, runs.foldr (fun run width => run.glyphs.width + width) 0, context.lineHeight⟩
  baseline := context.ascent
  runs := if text.isEmpty then none else some runs
  layout := ⟨text, context, runs⟩

/-- Shapes a text. -/
def shape (context : ShapingContext) (text : String) :
    Except GlyphError (ShapedCluster FontFace TextLayout) :=
  (context.shapeRuns text).map (context.clusterOf text)

end ShapingContext

/-- The layout with its text shaped again. -/
def TextLayout.refresh (l : TextLayout) : Except GlyphError TextLayout :=
  (l.context.shapeRuns l.text).map fun runs => ⟨l.text, l.context, runs⟩

/-- The distance from the top of a layout to its baseline. -/
def TextLayout.baseline (l : TextLayout) : Fixed := l.context.ascent

namespace FontStack

/-- The context for text of a height in pixels, without the record of it. -/
def contextAt (fonts : FontStack) (height : Nat) : ShapingContext :=
  let face := fonts.primary.face
  let size := single height
  let scale := single (size / face.unitsPerEm)
  let pixels (units : Int) : Fixed :=
    Fixed.fromPixels (BinaryFormat.single.round (units * scale))
  ⟨fonts, size, pixels face.ascent, pixels (face.ascent + face.descent + face.leading)⟩

/-- A context for text of a height in pixels. -/
def createContext (fonts : FontStack) (height : Nat) :
    Noted (Except GlyphError ShapingContext) :=
  let label := fonts.primary.label
  if fonts.primary.face.unitsPerEm = 0 then
    pure (.error (.fontUnavailable ("font '" ++ label ++ "' reports zero units per em")))
  else do
    let context := fonts.contextAt height
    .note .debug .shaper ("shaper: context for '" ++ label
      ++ s!"' at {height}px (ascent {context.ascent}, line height {context.lineHeight})")
    pure (.ok context)

/-- The engine that shapes with the faces of a stack. -/
def engine (fonts : FontStack) : ShapingEngine ShapingContext FontFace TextLayout where
  createContext := fonts.createContext
  shape := ShapingContext.shape

end FontStack
end GlyphGrid
