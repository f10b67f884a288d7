import GlyphGrid.Font.Stack

/-!
# Segments

A text is cut into segments, each of which one face of a stack can show.  A segment goes on as long
as its face has the next character; the character that it lacks begins a segment in the first face
that has it.
-/

namespace GlyphGrid

/-- A stretch of text and the face that it is shown with. -/
structure Segment where
  face : Nat
  start : Nat
  chars : List Char
  deriving DecidableEq

namespace Segment

/-- The number of bytes of some characters. -/
def byteLength (cs : List Char) : Nat := cs.foldr (fun c length => c.utf8Size + length) 0

/-- The byte after the stretch. -/
def stop (s : Segment) : Nat := s.start + byteLength s.chars

/-- Cuts characters into segments, the first of which has begun with `begun`, in reverse. -/
def listFrom (fonts : FontStack) (face start : Nat) (begun : List Char) :
    List Char → List Segment
  | [] => [⟨face, start, begun.reverse⟩]
  | c :: rest =>
    if fonts.covers face c then listFrom fonts face start (c :: begun) rest
    else
      ⟨face, start, begun.reverse⟩
        :: listFrom fonts (fonts.faceFor c) (start + byteLength begun) [c] rest

/-- Cuts characters into segments. -/
def list (fonts : FontStack) : List Char → List Segment
  | [] => []
  | c :: rest => listFrom fonts (fonts.faceFor c) 0 [c] rest

end Segment
end GlyphGrid
