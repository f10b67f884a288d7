import GlyphGrid.Font.Normalize

/-!
# Glyphs and advances

`Face.place` gives the glyphs for some characters and how far each moves the pen, in font units.
A space that the face lacks takes the place of the plain space with a width of its own, a mark
that takes no room does not move the pen, and an ignorable character leaves no trace.
-/

namespace GlyphGrid

open Text

/-- How wide a space is. -/
inductive SpaceWidth where
  | plain
  | emOver (count : Nat)
  | mathematical
  | figure
  | punctuation
  | narrow
  deriving DecidableEq

/-- The width of a space. -/
def SpaceWidth.of? (c : Char) : Option SpaceWidth :=
  match c.toNat with
  | 0x20 | 0xA0 => some .plain
  | 0x2001 | 0x2003 | 0x3000 => some (.emOver 1)
  | 0x2000 | 0x2002 => some (.emOver 2)
  | 0x2004 => some (.emOver 3)
  | 0x2005 => some (.emOver 4)
  | 0x2006 => some (.emOver 6)
  | 0x2007 => some .figure
  | 0x2008 => some .punctuation
  | 0x2009 => some (.emOver 5)
  | 0x200A => some (.emOver 16)
  | 0x202F => some .narrow
  | 0x205F => some .mathematical
  | _ => none

/-- A glyph, the cluster it stands for, and how far it moves the pen in font units. -/
structure UnscaledGlyph where
  glyphId : Nat
  cluster : Nat
  advance : Int
  deriving DecidableEq

namespace Face

/-- The advance of the first of some characters that the face has. -/
def firstAdvance? (f : Face) (cs : List Char) : Option Int :=
  (cs.findSome? f.glyphId?).map f.advance

/-- How far a space moves the pen whose glyph is that of the plain space, number `space`. -/
def spaceAdvance (f : Face) (space : Nat) : SpaceWidth → Int
  | .plain => f.advance space
  | .emOver count => (f.unitsPerEm + count / 2) / count
  | .mathematical => f.unitsPerEm * 4 / 18
  | .figure => (f.firstAdvance? "0123456789".toList).getD (f.advance space)
  | .punctuation => (f.firstAdvance? ".,".toList).getD (f.advance space)
  | .narrow => (f.advance space).tdiv 2

/-- The glyph of the plain space. -/
def space? (f : Face) : Option Nat := f.glyphId? ' '

/-- The glyph of a character and how far it moves the pen, whatever the character is. -/
def glyphFor (f : Face) (c : Char) : Nat × Int :=
  match f.glyphId? c with
  | some i => (i, f.advance i)
  | none =>
    match SpaceWidth.of? c, f.space? with
    | some width, some space => (space, f.spaceAdvance space width)
    | _, _ =>
      let i := (if c = '\u2011' then f.glyphId? '\u2010' else none).getD 0
      (i, f.advance i)

/-- The glyph for a character. -/
def placePiece (f : Face) (p : Piece) : UnscaledGlyph :=
  if isIgnorable p.char then ⟨f.space?.getD 0, p.cluster, 0⟩
  else
    let (i, advance) := f.glyphFor p.char
    ⟨i, p.cluster, if isNonspacingMark p.char then 0 else advance⟩

/-- What is left of some characters without those that are ignorable.  The first cluster that is
left takes in what was before it. -/
def withoutIgnorable (ps : List Piece) : List Piece :=
  match ps, ps.dropWhile (isIgnorable ·.char) with
  | first :: _, q :: rest =>
    let relabel (p : Piece) : Piece := ⟨p.char, first.cluster⟩
    let kept := q :: rest
    let own := kept.takeWhile (·.cluster == q.cluster)
    let others := kept.dropWhile (·.cluster == q.cluster)
    (own.map relabel ++ others).filter (!isIgnorable ·.char)
  | _, _ => []

/-- The glyphs for the characters that begin at a byte. -/
def place (f : Face) (start : Nat) (cs : List Char) : List UnscaledGlyph :=
  let ps := f.normalForm (Piece.list start cs)
  (if f.space?.isSome then ps else withoutIgnorable ps).map f.placePiece

end Face
end GlyphGrid
