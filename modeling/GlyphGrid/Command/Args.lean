import GlyphGrid.Log.Level

/-!
# The command line

`Invocation.parse` reads the words of a command line: options of the program, one of its two
commands, and what that command takes.  Words are read one after the other, and the first fault
counts.  An option waits for its value, and its value is checked only when something else comes, so
that of two faults the one that is noticed first is reported.
-/

namespace GlyphGrid

/-- Why a command line is not carried out. -/
inductive UsageError where
  | help
  | version
  | nothingGiven
  | missingCommand
  | missingArgument
  | unknownArgument
  | unknownCommand
  /-- A value is missing or not one of the values that the option takes. -/
  | invalidValue
  | unreadableValue
  | repeated
  /-- A value was given to an option that takes none. -/
  | unexpectedValue
  deriving DecidableEq

/-- The exit code after a usage error: asking for help is no failure. -/
def UsageError.exitCode : UsageError → Nat
  | .help | .version => 0
  | _ => 2

/-- The wording of a usage error. -/
def UsageError.message : UsageError → String
  | .help => "render text through a per-cell glyph cache"
  | .version => "cellglyph 0.1.0"
  | .nothingGiven => "nothing was asked for"
  | .missingCommand => "a command is missing"
  | .missingArgument => "the text to render is missing"
  | .unknownArgument => "an argument is not known"
  | .unknownCommand => "the command is not known"
  | .invalidValue => "a value is missing or not one that the option takes"
  | .unreadableValue => "a value cannot be read"
  | .repeated => "an option was given twice"
  | .unexpectedValue => "a value was given to an option that takes none"

/-- How the program is called. -/
def usageLines : List String :=
  ["Usage: cellglyph [--config PATH] [--log-level LEVEL] COMMAND",
    "  render [--height PIXELS] [--font FAMILY] [-o PATH] [--columns N] TEXT",
    "  metrics [--height PIXELS] [--font FAMILY]"]

/-- The options that take a value. -/
inductive Flag where
  | config
  | logLevel
  | height
  | font
  | output
  | columns
  deriving DecidableEq

namespace Flag

/-- The name of an option. -/
def long : Flag → String
  | .config => "config"
  | .logLevel => "log-level"
  | .height => "height"
  | .font => "font"
  | .output => "output"
  | .columns => "columns"

/-- The letter of an option. -/
def short? : Flag → Option Char
  | .output => some 'o'
  | _ => none

end Flag

/-- The values of the options. -/
structure Settings where
  config? : Option String
  logLevel? : Option LogLevel
  height? : Option UInt32
  font? : Option String
  output? : Option String
  columns? : Option UInt64
  deriving DecidableEq

namespace Settings

/-- No option was given. -/
def none : Settings := ⟨.none, .none, .none, .none, .none, .none⟩

/-- Whether an option was given. -/
def has (s : Settings) : Flag → Bool
  | .config => s.config?.isSome
  | .logLevel => s.logLevel?.isSome
  | .height => s.height?.isSome
  | .font => s.font?.isSome
  | .output => s.output?.isSome
  | .columns => s.columns?.isSome

/-- A path, which is not empty. -/
def readPath (text : String) : Except UsageError String :=
  if text.isEmpty then .error .invalidValue else .ok text

/-- A number below a bound. -/
def readNumber (bound : Nat) (text : String) : Except UsageError Nat :=
  match Text.unsigned? text.toList with
  | some n => if n < bound then .ok n else .error .unreadableValue
  | Option.none => .error .unreadableValue

/-- A height; zero may have a minus sign. -/
def readHeight (text : String) : Except UsageError UInt32 :=
  match text.toList with
  | '-' :: digits =>
    if Text.decimal? digits = some 0 then .ok 0 else .error .unreadableValue
  | _ => (readNumber UInt32.size text).map UInt32.ofNat

/-- A threshold by its word. -/
def readLevel (text : String) : Except UsageError LogLevel :=
  match LogLevel.ofWord? text with
  | some level => .ok level
  | Option.none => .error .invalidValue

/-- Gives an option a value; an option that has one is refused. -/
def set (s : Settings) (flag : Flag) (text : String) : Except UsageError Settings :=
  if s.has flag then .error .repeated
  else match flag with
    | .config => (readPath text).map fun v => { s with config? := some v }
    | .logLevel => (readLevel text).map fun v => { s with logLevel? := some v }
    | .height => (readHeight text).map fun v => { s with height? := some v }
    | .font => .ok { s with font? := some text }
    | .output => (readPath text).map fun v => { s with output? := some v }
    | .columns => (readNumber UInt64.size text).map fun n =>
      { s with columns? := some (UInt64.ofNat n) }

end Settings

/-! ## Levels of a command line -/

/-- The commands. -/
inductive CommandName where
  | render
  | metrics
  | help
  deriving DecidableEq

/-- The command with a name. -/
def CommandName.ofWord? : String → Option CommandName
  | "render" => some .render
  | "metrics" => some .metrics
  | "help" => some .help
  | _ => none

/-- A part of the command line: before the command, or after it. -/
inductive Level where
  | program
  | command (name : CommandName)
  deriving DecidableEq

/-- The options of a level; those of the program may also come after the command. -/
def Level.flags : Level → List Flag
  | .program | .command .help => [.config, .logLevel]
  | .command .render => [.config, .logLevel, .height, .font, .output, .columns]
  | .command .metrics => [.config, .logLevel, .height, .font]

/-- Whether a level takes a text. -/
def Level.takesText (level : Level) : Bool := level = .command .render

/-- The words of a level that are read. -/
structure Reading where
  settings : Settings
  /-- The option that was given last, and its value if it is there, which is not checked yet. -/
  pending? : Option (Flag × Option String)
  text? : Option String
  isClosed : Bool

namespace Reading

/-- Nothing was read. -/
def start : Reading := ⟨.none, none, none, false⟩

/-- Whether an option waits for its value. -/
def isWaiting (r : Reading) : Bool :=
  match r.pending? with
  | some (_, none) => true
  | _ => false

/-- Checks the value of the last option. -/
def resolve (r : Reading) : Except UsageError Reading :=
  match r.pending? with
  | none => .ok r
  | some (_, none) => .error .invalidValue
  | some (flag, some text) =>
    (r.settings.set flag text).map fun s => { r with settings := s, pending? := none }

/-- Gives an option a value that is attached to it, or waits for one. -/
def give (r : Reading) (flag : Flag) (value? : Option String) : Except UsageError Reading := do
  let r ← r.resolve
  match value? with
  | some text => do
    let s ← r.settings.set flag text
    .ok { r with settings := s }
  | none => .ok { r with pending? := some (flag, none) }

/-- Answers a question instead of going on. -/
def interrupt (r : Reading) (e : UsageError) : Except UsageError Reading := do
  let _ ← r.resolve
  .error e

/-- Reads a word that begins with two hyphens. -/
def long (level : Level) (r : Reading) (name : List Char) (value? : Option String) :
    Except UsageError Reading :=
  let question? : Option UsageError :=
    if name = "help".toList then some .help
    else if name = "version".toList && level = .program then some .version
    else none
  match question? with
  | some e => if value?.isSome then .error .unexpectedValue else r.interrupt e
  | none =>
    match level.flags.find? fun flag => flag.long.toList == name with
    | some flag => r.give flag value?
    | none => .error .unknownArgument

/-- Reads a word that begins with one hyphen before `letter`. -/
def short (level : Level) (r : Reading) (letter : Char) (rest : List Char) :
    Except UsageError Reading :=
  if letter = 'h' then r.interrupt .help
  else if letter = 'V' && level = .program then r.interrupt .version
  else match level.flags.find? fun flag => flag.short? == some letter with
    | some flag =>
      r.give flag (match rest with
        | [] => none
        | '=' :: value => some (String.ofList value)
        | value => some (String.ofList value))
    | none => .error .unknownArgument

/-- Reads a word that is no option. -/
def plain (level : Level) (r : Reading) (word : String) : Except UsageError Reading :=
  if level.takesText && r.text?.isNone then
    r.resolve.map fun r => { r with text? := some word }
  else if level = .program && !(r.isClosed && (CommandName.ofWord? word).isSome) then
    .error .unknownCommand
  else .error .unknownArgument

/-- The name and the attached value of a long option. -/
def splitValue (cs : List Char) : List Char × Option String :=
  match cs.dropWhile (· != '=') with
  | [] => (cs, none)
  | _ :: value => (cs.takeWhile (· != '='), some (String.ofList value))

/-- Reads one word. -/
def word (level : Level) (r : Reading) (text : String) : Except UsageError Reading :=
  if r.isClosed then plain level r text
  else match text.toList with
    | ['-', '-'] => .ok { r with isClosed := true }
    | '-' :: '-' :: cs =>
      let (name, value?) := splitValue cs
      long level r name value?
    | '-' :: letter :: rest => short level r letter rest
    | _ =>
      match r.pending? with
      | some (flag, none) => .ok { r with pending? := some (flag, some text) }
      | _ => plain level r text

/-- The command that a word names, where one can stand. -/
def command? (level : Level) (r : Reading) (text : String) : Option CommandName :=
  if level = .program && !r.isClosed && !r.isWaiting then CommandName.ofWord? text else none

/-- Reads the words of a level up to the command, if one comes. -/
def words (level : Level) (r : Reading) :
    List String → Except UsageError (Reading × Option (CommandName × List String))
  | [] => .ok (r, none)
  | text :: rest =>
    match command? level r text with
    | some name => .ok (r, some (name, rest))
    | none =>
      match word level r text with
      | .error e => .error e
      | .ok r => words level r rest

end Reading

/-! ## Invocations -/

/-- What the program is asked to do. -/
inductive Command where
  | render (text : String) (height? : Option UInt32) (font? : Option String) (output : String)
      (columns? : Option UInt64)
  | metrics (height? : Option UInt32) (font? : Option String)
  deriving DecidableEq

/-- A command line that was understood. -/
structure Invocation where
  /-- The configuration file, if one is named. -/
  config? : Option String
  /-- The threshold of the log, if one is named. -/
  logLevel? : Option LogLevel
  command : Command
  deriving DecidableEq

namespace Invocation

/-- Where a picture goes unless another place is named. -/
def defaultOutput : String := "cellglyph.png"

/-- The command of a level that was read. -/
def commandOf (name : CommandName) (r : Reading) : Except UsageError Command :=
  let s := r.settings
  match name, r.text? with
  | .render, some text =>
    .ok (.render text s.height? s.font? (s.output?.getD defaultOutput) s.columns?)
  | .render, none => .error .missingArgument
  | .metrics, _ => .ok (.metrics s.height? s.font?)
  | .help, _ => .error .help

/-- Answers a question for help: the words after it name a command at most. -/
def helpFor : List String → UsageError
  | [] => .help
  | [text] => if (CommandName.ofWord? text).isSome then .help else .unknownCommand
  | _ => .unknownCommand

/-- Reads the words after a command. -/
def parseCommand (name : CommandName) (rest : List String) :
    Except UsageError (Settings × Command) := do
  if name = .help then .error (helpFor rest)
  else
    let (r, _) ← Reading.words (.command name) .start rest
    let r ← r.resolve
    let command ← commandOf name r
    .ok (r.settings, command)

/-- Reads the words of a command line after the program's name. -/
def parse (args : List String) : Except UsageError Invocation := do
  let (r, command?) ← Reading.words .program .start args
  match command? with
  | none =>
    let r ← r.resolve
    .error (if r.settings = .none then .nothingGiven else .missingCommand)
  | some (name, rest) =>
    let (inner, command) ← parseCommand name rest
    let r ← r.resolve
    .ok ⟨inner.config? <|> r.settings.config?, inner.logLevel? <|> r.settings.logLevel?, command⟩

end Invocation
end GlyphGrid
