import GlyphGrid.Font.Face

/-!
# Font stacks

A text is shaped with a primary face and, for the characters that it lacks, with fallbacks.  Faces
are numbered in the order in which they are tried, the primary face being number zero.
-/

namespace GlyphGrid

/-- A primary face and the faces after it. -/
structure FontStack where
  primary : LoadedFace
  /-- The faces that are tried after it, in order. -/
  fallbacks : List LoadedFace

namespace FontStack

/-- All faces in order. -/
def faces (s : FontStack) : List LoadedFace := s.primary :: s.fallbacks

/-- The number of faces. -/
def count (s : FontStack) : Nat := s.faces.length

/-- The face with a number. -/
def get? (s : FontStack) (index : Nat) : Option LoadedFace := s.faces[index]?

/-- The first face that has a character, or the primary face if none does. -/
def faceFor (s : FontStack) (c : Char) : Nat :=
  (s.faces.findIdx? (·.face.covers c)).getD 0

/-- Whether the face with a number has a character. -/
def covers (s : FontStack) (index : Nat) (c : Char) : Bool :=
  (s.get? index).any (·.face.covers c)

end FontStack
end GlyphGrid
