/-!
# Log records

A record says something about a run: how severe it is, which part of the program says it, and the
message.  `LogLevel` is the threshold that decides which records are kept, and `Noted` is a value
together with the records made on the way to it.
-/

namespace GlyphGrid

/-- How severe a record is. -/
inductive Severity where
  | error
  | warn
  | info
  | debug
  | trace
  deriving DecidableEq

/-- Which records are kept. -/
inductive LogLevel where
  | off
  | error
  | warn
  | info
  | debug
  | trace
  deriving DecidableEq

namespace LogLevel

/-- The place of a threshold in the order from `off` to `trace`. -/
def rank : LogLevel → Nat
  | .off => 0
  | .error => 1
  | .warn => 2
  | .info => 3
  | .debug => 4
  | .trace => 5

/-- Every threshold, from `off` to `trace`. -/
def all : List LogLevel := [.off, .error, .warn, .info, .debug, .trace]

/-- The word for a threshold on a command line and in a configuration. -/
def word : LogLevel → String
  | .off => "off"
  | .error => "error"
  | .warn => "warn"
  | .info => "info"
  | .debug => "debug"
  | .trace => "trace"

/-- The threshold with the given word. -/
def ofWord? (text : String) : Option LogLevel :=
  all.find? fun level => level.word == text

end LogLevel

namespace Severity

/-- The least threshold that keeps records of this severity. -/
def level : Severity → LogLevel
  | .error => .error
  | .warn => .warn
  | .info => .info
  | .debug => .debug
  | .trace => .trace

/-- The name of a severity in a log line, five characters wide. -/
def label : Severity → String
  | .error => "ERROR"
  | .warn => "WARN "
  | .info => "INFO "
  | .debug => "DEBUG"
  | .trace => "TRACE"

end Severity

/-- The part of the program that a record comes from. -/
inductive LogSource where
  | program
  | configuration
  | grid
  | cache
  | glyph
  | shaper
  | canvas
  | fonts
  | fontLoader
  deriving DecidableEq

/-- The name of a source in a log line. -/
def LogSource.name : LogSource → String
  | .program => "cellglyph"
  | .configuration => "cellglyph::config"
  | .grid => "cellglyph::grid"
  | .cache => "cellglyph_fonts::glyph_cache"
  | .glyph => "cellglyph_fonts::glyph"
  | .shaper => "cellglyph_fonts::text_shaper"
  | .canvas => "cellglyph_fonts::canvas"
  | .fonts => "cellglyph_fonts::font_manager"
  | .fontLoader => "cellglyph_fonts::font_manager::loader"

/-- A message about a run. -/
structure LogRecord where
  severity : Severity
  source : LogSource
  message : String
  deriving DecidableEq

/-- Whether a threshold keeps a record. -/
def LogRecord.isKept (level : LogLevel) (r : LogRecord) : Bool :=
  r.severity.level.rank ≤ level.rank

/-- The line that a record makes in a log, at the given time. -/
def LogRecord.line (time : String) (r : LogRecord) : String :=
  "[" ++ time ++ "] [" ++ r.severity.label ++ "] [" ++ r.source.name ++ "] " ++ r.message

/-! ## Values with records -/

/-- A value and the records made on the way to it. -/
structure Noted (α : Type) where
  value : α
  /-- The records, in order. -/
  notes : List LogRecord

namespace Noted

instance : Monad Noted where
  pure a := ⟨a, []⟩
  bind x f :=
    let y := f x.value
    ⟨y.value, x.notes ++ y.notes⟩

/-- Makes one record. -/
def note (severity : Severity) (source : LogSource) (message : String) : Noted Unit :=
  ⟨(), [⟨severity, source, message⟩]⟩

theorem value_pure {α : Type} (a : α) : (pure a : Noted α).value = a := rfl

theorem value_bind {α β : Type} (x : Noted α) (f : α → Noted β) :
    (x >>= f).value = (f x.value).value := rfl

end Noted
end GlyphGrid
