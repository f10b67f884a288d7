import GlyphGrid.Raster.Color

/-!
# Faces

A face is what a font file says about one style of a family: its metrics in font units, the
characters it has glyphs for, and the shape of each glyph as filled rectangles.  Glyph zero stands
for every character that is missing.
-/

namespace GlyphGrid

/-- A filled rectangle; the second axis goes up. -/
structure Rect where
  left : Int
  bottom : Int
  right : Int
  top : Int
  deriving DecidableEq

/-- A rectangle of a colour. -/
structure ColorLayer where
  area : Rect
  color : Rgba
  deriving DecidableEq

/-- The shape of a glyph, relative to the pen on the baseline. -/
inductive GlyphShape where
  | outline (areas : List Rect)
  /-- Rectangles with colours of their own, each painted over those before it. -/
  | layers (painted : List ColorLayer)
  deriving DecidableEq

/-- A glyph of a face. -/
structure FaceGlyph where
  first : Nat
  last : Nat
  advance : Int
  shape : GlyphShape
  deriving DecidableEq

/-- The slope of a face. -/
inductive FontStyle where
  | normal
  | italic
  | oblique
  deriving DecidableEq

/-- A face. -/
structure Face where
  family : String
  /-- The number of font units in the size of the font. -/
  unitsPerEm : Nat
  ascent : Int
  descent : Int
  leading : Int
  /-- The advance of the glyph for missing characters. -/
  missingAdvance : Int
  /-- The shape of the glyph for missing characters. -/
  missingAreas : List Rect
  /-- The other glyphs, the first of which has number one. -/
  glyphs : List FaceGlyph
  isMonospaced : Bool
  /-- How heavy it is; 400 is regular. -/
  weight : Nat
  style : FontStyle
  /-- How wide it is, from one to nine; five is normal. -/
  stretch : Nat
  isBroken : Bool
  deriving DecidableEq

namespace Face

/-- The place of the last glyph that stands for a character, counted from `index`. -/
def lastGlyph? (code : Nat) (index : Nat) : List FaceGlyph → Option Nat
  | [] => none
  | g :: rest =>
    match lastGlyph? code (index + 1) rest with
    | some i => some i
    | none => if g.first ≤ code ∧ code ≤ g.last then some index else none

/-- The glyph of a character, if the face has one. -/
def glyphId? (f : Face) (c : Char) : Option Nat := lastGlyph? c.toNat 1 f.glyphs

/-- Whether the face has a glyph for a character. -/
def covers (f : Face) (c : Char) : Bool := (f.glyphId? c).isSome

/-- The advance of a glyph. -/
def advance (f : Face) : Nat → Int
  | 0 => f.missingAdvance
  | i + 1 => (f.glyphs[i]?).elim 0 (·.advance)

/-- The shape of a glyph, if the face has it. -/
def shape? (f : Face) : Nat → Option GlyphShape
  | 0 => some (.outline f.missingAreas)
  | i + 1 => (f.glyphs[i]?).map (·.shape)

/-- Whether text can be shaped with the face. -/
def isUsable (f : Face) : Bool := !f.isBroken && 16 ≤ f.unitsPerEm && f.unitsPerEm ≤ 16384

end Face

/-- A font file: the faces in it, or nothing that is a font. -/
inductive FontFile where
  | unreadable
  | readable (faces : List Face)

/-- A face that text can be shaped with, under the name that it was asked for. -/
structure LoadedFace where
  label : String
  index : Nat
  face : Face
  deriving DecidableEq

/-- The face of a file with a number, if text can be shaped with it. -/
def FontFile.load? (file : FontFile) (label : String) (index : Nat) : Option LoadedFace :=
  match file with
  | .unreadable => none
  | .readable faces => (faces[index]?).bind fun face =>
    if face.isUsable then some ⟨label, index, face⟩ else none

end GlyphGrid
