import GlyphGrid.Units.Binary

/-!
# Fixed-point distances

Distances inside a text are integers of 32 bits that count 1024ths of a pixel.  `toPixels` and
`toPixelsCeil` go to whole pixels; what they add to a distance wraps around where the sum does not
have 32 bits.  `fromPixels` comes from a floating-point number of pixels and is clamped.
-/

namespace GlyphGrid

/-- A distance in 1024ths of a pixel.  Its sums and products wrap around. -/
abbrev Fixed := Int32

namespace Fixed

/-- Units in a pixel. -/
def unitsPerPixel : Int := 1024

/-- The nearest whole pixel, a half going up. -/
def toPixels (u : Fixed) : Int32 := (u + 512) >>> 10

/-- The least whole number of pixels that covers the distance. -/
def toPixelsCeil (u : Fixed) : Int32 := (u + 1024 - 1) >>> 10

/-- The least 32-bit integer. -/
def minUnits : Int := -2147483648

/-- The greatest 32-bit integer. -/
def maxUnits : Int := 2147483647

/-- The 32-bit integer nearest to `n`. -/
def clamp (n : Int) : Fixed := Int32.ofInt (max minUnits (min maxUnits n))

/-- The 32-bit integer nearest to a floating-point number, a half going away from zero; what is no
number counts as zero. -/
def ofBinary : Binary → Fixed
  | .nan => 0
  | .infinite isNegative => clamp (if isNegative then minUnits else maxUnits)
  | .finite q => clamp (roundHalfAway q)

/-- A floating-point number times the units of a pixel, in single precision. -/
def scaleUp : Binary → Binary
  | .finite q => BinaryFormat.single.round (q * unitsPerPixel)
  | other => other

/-- The distance of a floating-point number of pixels. -/
def fromPixels (pixels : Binary) : Fixed := ofBinary (scaleUp pixels)

/-- A number of units in pixels, exactly. -/
def inPixels (units : Int) : Rat := (units : Rat) / unitsPerPixel

/-- The distance in pixels, exactly. -/
def pixels (u : Fixed) : Rat := inPixels u.toInt

end Fixed
end GlyphGrid
