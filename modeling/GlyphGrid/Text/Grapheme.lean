import GlyphGrid.Text.Boundary
import GlyphGrid.Text.CodePoint

/-!
# Grapheme clusters

A text is a sequence of characters, but what a reader takes for one character may be several: a
letter with its accents, a pair of regional indicators, pictographs tied by a joiner, a Korean
syllable, a conjunct.  `clusters` cuts a text between these.

Whether there is a cut before a character depends on the character and on how the text before it
ends.  `Tail` is what has to be remembered of that end; `Tail.start` is the tail of a single
character, and the tail after a cut is always of this kind.
-/

namespace GlyphGrid.Text

/-- The part that a character plays at a boundary. -/
inductive BreakClass where
  | carriageReturn
  | lineFeed
  | control
  | extend
  | joiner
  | spacingMark
  | prepend
  | regional
  | leadingJamo
  | vowelJamo
  | trailingJamo
  | openSyllable
  | closedSyllable
  | pictograph
  | other
  deriving DecidableEq

/-- The part that a character plays in a conjunct. -/
inductive ConjunctClass where
  | consonant
  | linker
  | extend
  | none
  deriving DecidableEq

/-- The first precomposed Korean syllable. -/
def firstSyllable : Nat := 0xAC00

/-- The last precomposed Korean syllable. -/
def lastSyllable : Nat := 0xD7A3

/-- The boundary class of a character. -/
def breakClass (c : Char) : BreakClass :=
  if c = '\r' then .carriageReturn
  else if c = '\n' then .lineFeed
  else if c = '\u200D' then .joiner
  else if inRanges Boundary.controlRanges c then .control
  else if c.toNat < 0xA9 then .other
  else if firstSyllable ≤ c.toNat ∧ c.toNat ≤ lastSyllable then
    if (c.toNat - firstSyllable) % 28 = 0 then .openSyllable else .closedSyllable
  else if 0x1F1E6 ≤ c.toNat ∧ c.toNat ≤ 0x1F1FF then .regional
  else if inRanges Boundary.extendRanges c then .extend
  else if inRanges Boundary.spacingMarkRanges c then .spacingMark
  else if inRanges Boundary.pictographRanges c then .pictograph
  else if inRanges Boundary.prependRanges c then .prepend
  else if inRanges Boundary.leadingJamoRanges c then .leadingJamo
  else if inRanges Boundary.vowelJamoRanges c then .vowelJamo
  else if inRanges Boundary.trailingJamoRanges c then .trailingJamo
  else .other

/-- The conjunct class of a character. -/
def conjunctClass (c : Char) : ConjunctClass :=
  if c.toNat < 0x300 then .none
  else if c = '\u200C' then .none
  else if c = '\u200D' then .extend
  else if inRanges Boundary.conjunctConsonantRanges c then .consonant
  else if inRanges Boundary.conjunctLinkerRanges c then .linker
  else if inRanges Boundary.extendRanges c then .extend
  else .none

/-! ## The end of a text -/

/-- How far a sequence of pictographs has come. -/
inductive PictographTail where
  /-- No pictograph before the extending characters at the end. -/
  | none
  | base
  /-- A pictograph, extending characters and a joiner. -/
  | joined
  deriving DecidableEq

/-- How far a conjunct has come. -/
inductive ConjunctTail where
  /-- No consonant before the extending characters at the end. -/
  | none
  | consonant
  | linked
  deriving DecidableEq

/-- What the end of a text says about the next boundary. -/
structure Tail where
  last : BreakClass
  /-- Whether the text ends in an odd number of regional indicators. -/
  oddRegionals : Bool
  pictograph : PictographTail
  conjunct : ConjunctTail
  deriving DecidableEq

/-- The tail of a single character. -/
def Tail.start (c : Char) : Tail where
  last := breakClass c
  oddRegionals := breakClass c = .regional
  pictograph := if breakClass c = .pictograph then .base else .none
  conjunct := if conjunctClass c = .consonant then .consonant else .none

/-- The tail of a text after one more character that belongs to its last cluster. -/
def Tail.push (t : Tail) (c : Char) : Tail where
  last := breakClass c
  oddRegionals := breakClass c = .regional && !t.oddRegionals
  pictograph :=
    match breakClass c, t.pictograph with
    | .pictograph, _ => .base
    | .extend, .base => .base
    | .joiner, .base => .joined
    | _, _ => .none
  conjunct :=
    match conjunctClass c, t.conjunct with
    | .consonant, _ => .consonant
    | .linker, .consonant => .linked
    | .linker, .linked => .linked
    | .extend, old => old
    | _, _ => .none

/-- Classes that stand alone. -/
def BreakClass.isControl : BreakClass → Bool
  | .carriageReturn | .lineFeed | .control => true
  | _ => false

/-- Whether the parts of a Korean syllable stay together. -/
def BreakClass.joinsSyllable : BreakClass → BreakClass → Bool
  | .leadingJamo, .leadingJamo | .leadingJamo, .vowelJamo | .leadingJamo, .openSyllable
  | .leadingJamo, .closedSyllable | .openSyllable, .vowelJamo | .openSyllable, .trailingJamo
  | .vowelJamo, .vowelJamo | .vowelJamo, .trailingJamo | .closedSyllable, .trailingJamo
  | .trailingJamo, .trailingJamo => true
  | _, _ => false

/-- Whether `c` belongs to the cluster before it. -/
def Tail.joins (t : Tail) (c : Char) : Bool :=
  let next := breakClass c
  if t.last = .carriageReturn && next = .lineFeed then true
  else if t.last.isControl || next.isControl then false
  else t.last.joinsSyllable next
    || next = .extend || next = .joiner || next = .spacingMark
    || t.last = .prepend
    || (t.conjunct = .linked && conjunctClass c = .consonant)
    || (t.pictograph = .joined && next = .pictograph)
    || (t.oddRegionals && next = .regional)

/-! ## Clusters -/

/-- Cuts characters into clusters, the first of which is already `begun`, in reverse. -/
def clustersFrom (t : Tail) (begun : List Char) : List Char → List (List Char)
  | [] => [begun.reverse]
  | c :: rest =>
    if t.joins c then clustersFrom (t.push c) (c :: begun) rest
    else begun.reverse :: clustersFrom (.start c) [c] rest

/-- The clusters of some characters. -/
def clustersOf : List Char → List (List Char)
  | [] => []
  | c :: rest => clustersFrom (.start c) [c] rest

/-- The clusters of a text. -/
def clusters (text : String) : List String :=
  (clustersOf text.toList).map String.ofList

end GlyphGrid.Text
