import GlyphGrid.Text.CodePoint

/-!
# Failures

`GlyphError` lists what can go wrong with cell contents, glyphs and fonts, one constructor for
each cause, and `GlyphError.message` is the one place where a cause is put into words.
-/

namespace GlyphGrid

/-- What is wrong with an argument. -/
inductive Misuse where
  | missingSource
  | shortSource
  | emptyContent
  /-- A font was asked for whose cells have no height. -/
  | zeroHeight
  /-- A cause that a collaborator describes itself. -/
  | other (text : String)
  deriving DecidableEq

/-- The wording of a misuse. -/
def Misuse.message : Misuse → String
  | .missingSource => "byte source is missing but length is non-zero"
  | .shortSource => "length exceeds the byte source"
  | .emptyContent => "glyph content is empty"
  | .zeroHeight => "font height is zero"
  | .other text => text

/-- The causes of failure. -/
inductive GlyphError where
  /-- An argument was missing, empty or out of range. -/
  | invalidArgument (misuse : Misuse)
  /-- Memory for `requested` bytes could not be had. -/
  | outOfMemory (requested : Nat)
  /-- The number `value`, at position `index`, is not a character. -/
  | notScalar (index value : Nat)
  /-- No character of a font of this height has a width. -/
  | noWidth (height : Nat)
  | inconsistent (text : String)
  | fontUnavailable (text : String)
  | shapingFailed (text : String)
  deriving DecidableEq

/-- The wording of a failure. -/
def GlyphError.message : GlyphError → String
  | .invalidArgument misuse => "invalid argument: " ++ misuse.message
  | .outOfMemory n => s!"out of memory: failed to allocate {n} bytes"
  | .notScalar i v =>
    s!"code point conversion failed at index {i}: U+" ++ Text.hexUpper 4 v
      ++ " is not a Unicode scalar value"
  | .noWidth h =>
    s!"font width measurement failed for height {h}: no character produced a positive width"
  | .inconsistent text => "internal inconsistency: " ++ text
  | .fontUnavailable text => "font unavailable: " ++ text
  | .shapingFailed text => "shaping failed: " ++ text

end GlyphGrid
