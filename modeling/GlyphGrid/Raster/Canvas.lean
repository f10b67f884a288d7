import GlyphGrid.Font.Shape
import GlyphGrid.Raster.Glyph

/-!
# Canvases

A canvas is an image that text is painted on, with the colour of the text and a cursor.  Painting
a layout means to paint its runs one after the other, and painting a run to paint its glyphs: first
`placeRuns` says where each glyph goes, then `Canvas.paintAll` lays the rasters over the image.
-/

namespace GlyphGrid

/-- A glyph with the pixel where its pen is. -/
structure PlacedGlyph where
  face : FontFace
  glyphId : Nat
  x : Int
  y : Int

/-- Places glyphs from a pen on.  The pen moves by exact fractions of a pixel, and each glyph goes
to the pixel that is nearest to it. -/
def placeGlyphs (face : FontFace) (baseline : Rat) (pen : Rat) :
    List ShapedGlyph → List PlacedGlyph
  | [] => []
  | g :: rest =>
    ⟨face, g.glyphId, roundHalfAway (pen + g.xOffset.pixels),
      roundHalfAway (baseline - g.yOffset.pixels)⟩
      :: placeGlyphs face baseline (pen + g.xAdvance.pixels) rest

/-- Places the glyphs of runs, each of which begins where the one before it ends. -/
def placeRuns (baseline : Rat) (pen : Rat) : List (GlyphRun FontFace) → List PlacedGlyph
  | [] => []
  | run :: rest =>
    placeGlyphs run.face baseline pen run.glyphs.glyphs
      ++ placeRuns baseline (pen + run.glyphs.width.pixels) rest

/-- A place between pixels. -/
structure Point where
  x : Rat
  y : Rat
  deriving DecidableEq

/-- An image that text is painted on. -/
structure Canvas where
  image : Image
  foreground : Rgba
  cursor : Point

namespace Canvas

/-- A canvas without text. -/
def blank (width height : Nat) (background foreground : Rgba) : Canvas :=
  ⟨.blank width height background, foreground, ⟨0, 0⟩⟩

/-- The canvas with its cursor elsewhere. -/
def moveTo (c : Canvas) (x y : Rat) : Canvas := ⟨c.image, c.foreground, ⟨x, y⟩⟩

/-- Lays a raster over the image, its pen at a pixel. -/
def lay (c : Canvas) (r : Raster) (x y : Int) : Canvas :=
  ⟨c.image.blit c.foreground r.bitmap (x + r.left) (y - r.top), c.foreground, c.cursor⟩

/-- Paints a glyph, of whose number a face sees the lowest 16 bits.  A glyph that its face lacks
leaves the image as it is. -/
def paint (c : Canvas) (g : PlacedGlyph) : Noted Canvas :=
  let font := g.face.font
  match font.face.raster? g.face.pixelSize (UInt16.ofNat g.glyphId) with
  | some r => pure (c.lay r g.x g.y)
  | none => do
    .note .trace .canvas (s!"canvas: glyph {g.glyphId} of '" ++ font.label ++ "' has no raster")
    pure c

/-- Paints glyphs, one after the other. -/
def paintAll (c : Canvas) : List PlacedGlyph → Noted Canvas
  | [] => pure c
  | g :: rest => do
    let c ← c.paint g
    c.paintAll rest

/-- Paints glyphs with the cursor on their baseline. -/
def showGlyphs (c : Canvas) (face : FontFace) (glyphs : GlyphString) : Noted Canvas :=
  c.paintAll (placeGlyphs face c.cursor.y c.cursor.x glyphs.glyphs)

/-- Paints a layout with its top left corner at the cursor. -/
def showLayout (c : Canvas) (l : TextLayout) : Noted Canvas :=
  c.paintAll (placeRuns (c.cursor.y + l.baseline.pixels) c.cursor.x l.runs)

/-- Canvases as surfaces. -/
def surface : DrawingSurface Canvas FontFace TextLayout where
  moveTo := moveTo
  updateLayout c l := pure (c, l.refresh)
  showLayout c l := do
    let c ← c.showLayout l
    pure (c, .ok ())
  showGlyphs c face glyphs := do
    let c ← c.showGlyphs face glyphs
    pure (c, .ok ())

end Canvas
end GlyphGrid
