import GlyphGrid.Log.Record
import GlyphGrid.Raster.Color

/-!
# Configuration

`Config` holds what a rendering needs to know beyond its text.  A configuration is usable when its
cells have a height and its rows have columns.
-/

namespace GlyphGrid

/-- How a text is rendered. -/
structure Config where
  fontHeight : UInt32
  /-- The family of the font; without one, the monospace font of the system is taken. -/
  fontFamily : Option String
  foreground : Rgba
  background : Rgba
  /-- The number of cells in a row before the text wraps. -/
  columns : UInt64
  /-- The threshold of the log, unless another place names one. -/
  logLevel : Option LogLevel
  deriving DecidableEq

/-- Why a configuration cannot be used. -/
inductive ConfigError where
  | missing (path : String)
  | unreadable (path : String)
  | malformed (path : String)
  | zeroHeight
  | zeroColumns
  deriving DecidableEq

/-- The wording of a configuration error. -/
def ConfigError.message : ConfigError → String
  | .missing path => "config file " ++ path ++ " does not exist"
  | .unreadable path => "failed to read config " ++ path
  | .malformed path => "failed to parse config " ++ path
  | .zeroHeight => "font_height must be positive"
  | .zeroColumns => "columns must be positive"

namespace Config

/-- The configuration that nobody changed. -/
def standard : Config where
  fontHeight := 16
  fontFamily := none
  foreground := ⟨229, 229, 229, 255⟩
  background := ⟨30, 30, 30, 255⟩
  columns := 80
  logLevel := none

/-- The configuration itself, if it is usable. -/
def validate (c : Config) : Except ConfigError Config :=
  if c.fontHeight = 0 then .error .zeroHeight
  else if c.columns = 0 then .error .zeroColumns
  else .ok c

/-- The configuration with the height and the family that a command line names. -/
def override (c : Config) (height? : Option UInt32) (family? : Option String) : Config :=
  { c with
    fontHeight := height?.getD c.fontHeight
    fontFamily := family? <|> c.fontFamily }

end Config
end GlyphGrid
