/-!
# Colours
-/

namespace GlyphGrid

/-- A colour with straight alpha. -/
structure Rgba where
  red : UInt8
  green : UInt8
  blue : UInt8
  alpha : UInt8
  deriving DecidableEq

namespace Rgba

/-- The channels in order. -/
def channels (c : Rgba) : List UInt8 := [c.red, c.green, c.blue, c.alpha]

/-- The colour with the given channels, if there are four. -/
def ofChannels? : List UInt8 → Option Rgba
  | [r, g, b, a] => some ⟨r, g, b, a⟩
  | _ => none

end Rgba
end GlyphGrid
