import GlyphGrid.Text.CanonicalTable
import GlyphGrid.Text.CodePoint
import GlyphGrid.Text.Mark

/-!
# Bases and marks

A letter with an accent can be one character or two.  `decompose?` takes one step from the first
form to the second and `compose?` goes back; `combiningClass` orders the marks of a base.
-/

namespace GlyphGrid.Text.Canonical

/-- One step of taking a character apart. -/
inductive Parts where
  /-- The character is another one under a second number. -/
  | one (c : Char)
  | two (base mark : Char)
  deriving DecidableEq

/-- The character that is left when the marks are taken away. -/
def Parts.base : Parts → Char
  | .one c => c
  | .two base _ => base

/-- The marks that are taken away. -/
def Parts.marks : Parts → List Char
  | .one _ => []
  | .two _ mark => [mark]

/-- Takes a character apart, if it has parts. -/
def decompose? (c : Char) : Option Parts :=
  if c.toNat < 0xC0 then none
  else match compositeTable.find? (·.1 == c.toNat) with
    | some (_, base, mark) => some (.two (Char.ofNat base) (Char.ofNat mark))
    | none => (aliasTable.find? (·.1 == c.toNat)).map fun e => .one (Char.ofNat e.2)

/-- The character that a base and a mark make, if there is one. -/
def compose? (base mark : Char) : Option Char :=
  match compositeTable.find? fun e => e.2.1 == base.toNat && e.2.2 == mark.toNat with
  | some (c, _) => if inRanges excludedRanges (Char.ofNat c) then none else some (Char.ofNat c)
  | none => none

/-- The class that orders a mark among its neighbours; zero for what does not move. -/
def combiningClass (c : Char) : Nat :=
  if c.toNat < 0x300 then 0
  else match combiningClassTable.find? fun e => e.1 ≤ c.toNat && c.toNat ≤ e.2.1 with
    | some (_, _, k) => k
    | none => 0

end Canonical

/-- Marks that take no room of their own. -/
def isNonspacingMark (c : Char) : Bool :=
  0x300 ≤ c.toNat && inRanges nonspacingMarkRanges c

/-- Marks of every kind. -/
def isMark (c : Char) : Bool :=
  isNonspacingMark c || (0x300 ≤ c.toNat && inRanges enclosingMarkRanges c)

/-- Characters that choose between forms of the character before them. -/
def isVariationSelector (c : Char) : Bool :=
  inRanges [(0x180B, 0x180D), (0x180F, 0x180F), (0xFE00, 0xFE0F), (0xE0100, 0xE01EF)] c

/-- Characters that have no shape even if a face has none for them. -/
def isIgnorable (c : Char) : Bool :=
  inRanges [(0xAD, 0xAD), (0x34F, 0x34F), (0x61C, 0x61C), (0x17B4, 0x17B5), (0x180B, 0x180E),
    (0x200B, 0x200F), (0x202A, 0x202E), (0x2060, 0x206F), (0xFE00, 0xFE0F), (0xFEFF, 0xFEFF),
    (0xFFF0, 0xFFF8), (0x1D173, 0x1D17A), (0xE0000, 0xE0FFF)] c

end GlyphGrid.Text
