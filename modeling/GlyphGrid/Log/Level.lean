import GlyphGrid.Log.Record
import GlyphGrid.Text.Blank

/-!
# Choosing the threshold of a log

Three places can name a threshold: the command line, an environment variable that holds a number,
and the configuration.  The first of them that does is followed.
-/

namespace GlyphGrid.LogLevel

/-- The threshold with the given number. -/
def ofNumber? : Nat → Option LogLevel
  | 0 => some .off
  | 1 => some .error
  | 2 => some .info
  | 3 => some .debug
  | 4 => some .trace
  | _ => none

/-- The threshold that the text of an environment variable names: a number from zero to four, with
an optional plus sign before it and white space around it. -/
def ofVariable? (text : String) : Option LogLevel :=
  (Text.unsigned? (Text.trimmed text.toList)).bind ofNumber?

/-- The threshold at the start of a run: that of the command line, or else that of the environment
variable. -/
def atStartup? (commandLine : Option LogLevel) (setting? : Option String) : Option LogLevel :=
  commandLine <|> setting?.bind ofVariable?

end GlyphGrid.LogLevel
