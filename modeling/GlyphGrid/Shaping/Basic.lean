import GlyphGrid.Error
import GlyphGrid.Log.Record
import GlyphGrid.Units.Fixed

/-!
# Shaping and drawing

What the cache knows of its two collaborators.  A `ShapingEngine` turns the text of a cell into
glyphs at positions; a `DrawingSurface` paints them.  Both are records of functions, so that any
engine and any surface can be put in: an engine answers the same for the same context and text,
and a surface is a state that each call replaces.
-/

namespace GlyphGrid

/-- One glyph of a face, with its advance and its offset from the pen. -/
structure ShapedGlyph where
  glyphId : Nat
  /-- The byte of the text that the glyph stands for; a text has less than 2 ^ 32 of them. -/
  cluster : Nat
  xAdvance : Fixed
  xOffset : Fixed
  yOffset : Fixed
  deriving DecidableEq

/-- Glyphs of one face, in order. -/
structure GlyphString where
  glyphs : List ShapedGlyph
  deriving DecidableEq

namespace GlyphString

/-- How far the pen moves over all glyphs, as a sum that wraps around. -/
def width (s : GlyphString) : Fixed :=
  s.glyphs.foldr (fun glyph width => glyph.xAdvance + width) 0

/-- The number of glyphs. -/
def length (s : GlyphString) : Nat := s.glyphs.length

/-- Whether there is no glyph. -/
def isEmpty (s : GlyphString) : Bool := s.glyphs.isEmpty

end GlyphString

/-- Glyphs shaped with one face. -/
structure GlyphRun (F : Type) where
  face : F
  glyphs : GlyphString

/-- A rectangle in fixed-point units. -/
structure Extents where
  x : Fixed
  y : Fixed
  width : Fixed
  height : Fixed
  deriving DecidableEq

/-- What an engine says about the text of a cell. -/
structure ShapedCluster (F L : Type) where
  logical : Extents
  baseline : Fixed
  /-- The runs, or `none` for a text without a line. -/
  runs : Option (List (GlyphRun F))
  /-- The whole, which a surface can bring up to date and paint. -/
  layout : L

/-- Turns texts into glyphs, in contexts of type `C`, with faces `F` and layouts `L`. -/
structure ShapingEngine (C F L : Type) where
  createContext : Nat → Noted (Except GlyphError C)
  shape : C → String → Except GlyphError (ShapedCluster F L)

/-- Paints glyphs; `S` is the state of the surface. -/
structure DrawingSurface (S F L : Type) where
  moveTo : S → Rat → Rat → S
  /-- Brings a layout up to date before it is painted.  One that cannot be brought up to date stays
  as it was. -/
  updateLayout : S → L → Noted (S × Except GlyphError L)
  /-- Paints a layout with its top left corner at the cursor. -/
  showLayout : S → L → Noted (S × Except GlyphError Unit)
  /-- Paints glyphs with the cursor on their baseline. -/
  showGlyphs : S → F → GlyphString → Noted (S × Except GlyphError Unit)

end GlyphGrid
