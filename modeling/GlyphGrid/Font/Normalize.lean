import GlyphGrid.Font.Face
import GlyphGrid.Text.Boundary
import GlyphGrid.Text.Canonical

/-!
# The form of a text that a face can show

A letter with an accent may come as one character or as two, and a face may have a glyph for only
one of the two forms.  `Face.normalForm` takes apart what the face lacks, puts the marks of each
base into canonical order, and puts together again what the face has.

Every character keeps the cluster that it came from: the byte where the shortest stretch of text
begins that is not to be torn.
-/

namespace GlyphGrid

open Text

/-- A character and the byte where its cluster begins. -/
structure Piece where
  char : Char
  cluster : Nat
  deriving DecidableEq

namespace Piece

/-! ## Clusters -/

/-- What has to be remembered of the character before. -/
inductive Before where
  | other
  | joiner
  /-- It is the first regional indicator of a pair. -/
  | regional
  deriving DecidableEq

/-- The character that ties pictographs. -/
def joiner : Char := '\u200D'

/-- Letters that make flags in pairs. -/
def isRegional (c : Char) : Bool := inRanges [(0x1F1E6, 0x1F1FF)] c

/-- Characters that never begin a cluster although they are no marks: skin tones, halfwidth sound
marks and tags. -/
def isTrailer (c : Char) : Bool :=
  inRanges [(0x1F3FB, 0x1F3FF), (0xFF9E, 0xFF9F), (0xE0020, 0xE007F)] c

/-- Whether a character belongs to the cluster before it. -/
def continues (before : Before) (c : Char) : Bool :=
  isMark c || isTrailer c || c = joiner
    || (before = .joiner && inRanges Boundary.pictographRanges c)
    || (before = .regional && isRegional c)

/-- What a character leaves to the next one. -/
def after (before : Before) (c : Char) : Before :=
  if c = joiner then .joiner
  else if isRegional c && before ≠ .regional then .regional
  else .other

/-- Characters from a byte on, in a cluster that began before. -/
def listFrom (before : Before) (cluster offset : Nat) : List Char → List Piece
  | [] => []
  | c :: rest =>
    let cluster := if continues before c then cluster else offset
    ⟨c, cluster⟩ :: listFrom (after before c) cluster (offset + c.utf8Size) rest

/-- Characters that begin at a byte. -/
def list (start : Nat) (cs : List Char) : List Piece := listFrom .other start start cs

/-! ## Marks -/

/-- Groups of a character and the marks after it. -/
def groups : List Piece → List (List Piece)
  | [] => []
  | p :: rest =>
    match groups rest with
    | (q :: marks) :: others =>
      if isMark q.char then (p :: q :: marks) :: others else [p] :: (q :: marks) :: others
    | others => [p] :: others

/-- The class that orders a mark. -/
def order (p : Piece) : Nat := Canonical.combiningClass p.char

/-- The longest run of marks that is put into order. -/
def longestRun : Nat := 32

/-- Puts a run of marks into order; marks of one class keep theirs. -/
def sortRun (run : List Piece) : List Piece :=
  if run.length ≤ longestRun then run.mergeSort (fun p q => p.order ≤ q.order) else run

/-- Puts the marks between bases into order; `run` holds those since the last base, in reverse. -/
def sortMarks (run : List Piece) : List Piece → List Piece
  | [] => sortRun run.reverse
  | p :: rest =>
    if p.order = 0 then sortRun run.reverse ++ p :: sortMarks [] rest
    else sortMarks (p :: run) rest

end Piece

namespace Face

/-! ## Taking apart -/

/-- No character comes apart in more steps than this. -/
def longestSpelling : Nat := 8

/-- The parts of a character, all of which the face has; none if it cannot be taken apart like
that.  `isBrief` stops at the first base that the face has. -/
def parts (f : Face) (isBrief : Bool) : Nat → Char → List Char
  | 0, _ => []
  | steps + 1, c =>
    match Canonical.decompose? c with
    | none => []
    | some p =>
      if !p.marks.all f.covers then []
      else if isBrief && f.covers p.base then p.base :: p.marks
      else match f.parts isBrief steps p.base with
        | [] => if f.covers p.base then p.base :: p.marks else []
        | spelled => spelled ++ p.marks

/-- A character in parts, or as it is if it has none. -/
def spell (f : Face) (isBrief : Bool) (p : Piece) : List Piece :=
  match f.parts isBrief longestSpelling p.char with
  | [] => [p]
  | cs => cs.map (⟨·, p.cluster⟩)

/-- Spells a group.  A character without marks is left alone if the face has it, and a group with
a variation selector is left alone altogether. -/
def spellGroup (f : Face) : List Piece → List Piece
  | [p] => if f.covers p.char then [p] else f.spell true p
  | group =>
    if group.any (isVariationSelector ·.char) then group
    else group.flatMap (f.spell false)

/-! ## Putting together -/

/-- The character of the face that a base and a mark make.  Marks that stand between them, the last
of them first, must have lower classes. -/
def composite? (f : Face) (base : Piece) (between : List Piece) (mark : Piece) : Option Char :=
  if isMark mark.char && between.head?.all (·.order < mark.order) then
    (Canonical.compose? base.char mark.char).filter f.covers
  else none

/-- Puts bases and marks together, the last base so far being `base` and the marks that stay after
it `between`, in reverse. -/
def compose (f : Face) (base : Piece) (between : List Piece) : List Piece → List Piece
  | [] => base :: between.reverse
  | p :: rest =>
    match f.composite? base between p with
    | some c => f.compose ⟨c, base.cluster⟩ between rest
    | none =>
      if p.order = 0 then (base :: between.reverse) ++ f.compose p [] rest
      else f.compose base (p :: between) rest

/-- The form of some characters that the face can show best. -/
def normalForm (f : Face) (ps : List Piece) : List Piece :=
  let groups := Piece.groups ps
  let spelled := groups.flatMap f.spellGroup
  if groups.all (·.length = 1) then spelled
  else match Piece.sortMarks [] spelled with
    | [] => []
    | p :: rest => f.compose p [] rest

end Face
end GlyphGrid
