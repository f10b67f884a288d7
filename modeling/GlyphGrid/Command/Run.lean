import GlyphGrid.Command.Args
import GlyphGrid.Config.Store
import GlyphGrid.Font.Catalogue
import GlyphGrid.Grid.Draw
import GlyphGrid.Log.Session
import GlyphGrid.Raster.Canvas

/-!
# Runs

A run carries out a command line.  `Surroundings.run` is a function from what a run finds, files,
fonts and environment, to what it leaves behind: an exit code, two texts, and the files.

On the way it goes from `World` to `World`: each part of a run finds the files as the parts before
it have left them, and answers with the files as it leaves them, also where it fails.
-/

namespace GlyphGrid

/-- Why a command line that was understood could not be carried out. -/
inductive RunError where
  | config (cause : ConfigError)
  | noFonts (cause : GlyphError)
  | noFont (height : Nat) (cause : GlyphError)
  | tooLarge
  | unwritable (path : String)
  deriving DecidableEq

namespace RunError

/-- The wording of a failure. -/
def message : RunError → String
  | .config cause => cause.message
  | .noFonts _ => "failed to load fonts"
  | .noFont height _ => s!"failed to create a {height}px font"
  | .tooLarge => "text is too large to render; lower --columns or split it into lines"
  | .unwritable path => "failed to write " ++ path

/-- The wording of what is behind a failure. -/
def cause? : RunError → Option String
  | .config (.unreadable _) => some "the file cannot be read as text"
  | .config (.malformed _) => some "the text is no configuration"
  | .config _ => none
  | .noFonts cause => some cause.message
  | .noFont _ cause => some cause.message
  | .tooLarge => none
  | .unwritable _ => some "the file cannot be created"

/-- A failure in one line. -/
def summary (e : RunError) : String :=
  "cellglyph: error: " ++ e.message ++ e.cause?.elim "" (": " ++ ·)

/-- A failure with its cause below it. -/
def report (e : RunError) : List String :=
  ("Error: " ++ e.message) :: e.cause?.elim [] fun cause => ["", "Caused by:", "    " ++ cause]

/-- What is said about a failure.  A command that fails says so itself as well. -/
def lines (e : RunError) : List String :=
  match e with
  | .config _ => e.report
  | _ => e.summary :: e.report

end RunError

/-- What a run finds. -/
structure Surroundings where
  files : FileTree
  working : Location
  fonts : Catalogue
  home? : Option String
  configHome? : Option String
  /-- The threshold of the log that the environment names. -/
  debugLevel? : Option String
  /-- Whether the log also goes to the error output. -/
  echoesLog : Bool
  logPath : String
  time : String

/-- What a run leaves behind. -/
structure Outcome where
  exitCode : Nat
  output : List String
  errors : List String
  files : FileTree
  log : LogSession

/-- What a run has changed so far. -/
structure World where
  files : FileTree
  log : LogSession
  /-- The lines that the log has kept. -/
  lines : List String

namespace World

/-- Writes a line to the log. -/
def writeLine (place : LogPlace) (world : World) (line : String) : World :=
  let written := world.log.append place line world.files
  ⟨written.2, written.1, world.lines ++ [line]⟩

/-- Writes some lines to the log, one after the other. -/
def write (place : LogPlace) (world : World) (lines : List String) : World :=
  lines.foldl (writeLine place) world

/-- Takes the value of a part of a run, and writes the records of it that are kept. -/
def take {α : Type} (place : LogPlace) (world : World) (part : Noted α) : World × α :=
  (world.write place (world.log.lines place part.notes), part.value)

/-- Puts the threshold of a configuration in force. -/
def configure (place : LogPlace) (world : World) (level? : Option LogLevel) : World :=
  let configured := world.log.configure place level? world.files
  ⟨configured.2, configured.1, world.lines⟩

/-- Writes a picture where a path leads to. -/
def save? (place : LogPlace) (world : World) (path : String) (image : Image) : Option World :=
  (world.files.put? place.working path (.picture image [])).map fun files =>
    ⟨files, world.log, world.lines⟩

end World

/-- The picture that a command makes. -/
def Command.picturePath? : Command → Option String
  | .render _ _ _ path _ => some path
  | .metrics .. => none

namespace Command

/-- The cache of a font. -/
abbrev FontCache := GlyphCache ShapingContext FontFace TextLayout

/-- The font that a configuration asks for. -/
def openFont (fonts : Catalogue) (config : Config) :
    Noted (Except RunError (FontStack × FontCache)) := do
  match ← FontStack.find fonts config.fontFamily with
  | .error e => pure (.error (.noFonts e))
  | .ok stack =>
    let height := config.fontHeight.toNat
    match ← GlyphCache.create stack.engine height with
    | .error e => pure (.error (.noFont height e))
    | .ok cache => pure (.ok (stack, cache))

/-- The line that a rendering says. -/
def renderedLine (count : DrawCount) (path : String) : String :=
  s!"Rendered {count.drawn} cells ({count.skipped} skipped) to " ++ path

/-- Draws a grid and writes the picture. -/
def renderGrid (place : LogPlace) (world : World) (config : Config) (cache : FontCache)
    (grid : CellGrid) (path : String) : World × Except RunError (List String) :=
  match grid.canvasSize cache.width cache.height with
  | none => ((world.take place cache.closeNote).1, .error .tooLarge)
  | some (width, height) =>
    let blank := Canvas.blank width height config.background config.foreground
    let (world, cache, canvas, count) :=
      world.take place (drawGrid cache Canvas.surface blank grid)
    match world.save? place path canvas.image with
    | none => ((world.take place cache.closeNote).1, .error (.unwritable path))
    | some world => ((world.take place cache.closeNote).1, .ok [renderedLine count path])

/-- Renders a text. -/
def renderText (place : LogPlace) (world : World) (fonts : Catalogue) (config : Config)
    (text : String) (columns : Nat) (path : String) : World × Except RunError (List String) :=
  match world.take place (openFont fonts config) with
  | (world, .error e) => (world, .error e)
  | (world, .ok (_, cache)) => renderGrid place world config cache (.layout text columns) path

/-- The lines that say how large the cells of a font are. -/
def metricsLines (stack : FontStack) (cache : FontCache) : List String :=
  ["Font:          " ++ stack.primary.label,
    s!"Fallbacks:     {stack.fallbacks.length}",
    s!"Cell width:    {cache.width}px",
    s!"Cell height:   {cache.height}px",
    s!"Cached glyphs: {cache.size}"]

/-- Says how large the cells of a font are. -/
def reportMetrics (place : LogPlace) (world : World) (fonts : Catalogue) (config : Config) :
    World × Except RunError (List String) :=
  match world.take place (openFont fonts config) with
  | (world, .error e) => (world, .error e)
  | (world, .ok (stack, cache)) =>
    ((world.take place cache.closeNote).1, .ok (metricsLines stack cache))

/-- Carries out a command. -/
def perform (place : LogPlace) (world : World) (fonts : Catalogue) (config : Config) :
    Command → World × Except RunError (List String)
  | .render text height? font? path columns? =>
    let config := config.override height? font?
    renderText place world fonts config text (columns?.getD config.columns).toNat path
  | .metrics height? font? => reportMetrics place world fonts (config.override height? font?)

end Command

namespace Surroundings

/-- Where the log goes. -/
def logPlace (w : Surroundings) : LogPlace := ⟨w.working, w.logPath, w.time⟩

/-- The path of the configuration unless the command line names one. -/
def configPath (w : Surroundings) : String := Config.defaultPath w.home? w.configHome?

/-- The configuration that a command line asks for; a file that it names has to be there. -/
def loadConfig (w : Surroundings) (files : FileTree) (path? : Option String) :
    Noted (Except ConfigError Config) :=
  match path? with
  | none => Config.load files w.working w.configPath
  | some path =>
    if (files.find? w.working path).isNone then pure (.error (.missing path))
    else Config.load files w.working path

/-- The record that a command begins. -/
def startNote : Noted Unit := .note .info .program "Starting cellglyph"

/-- The world at the start of a run. -/
def started (w : Surroundings) (i : Invocation) : World :=
  let log := LogSession.start w.logPlace i.logLevel? w.debugLevel? w.files
  ⟨log.2, log.1, []⟩

/-- The parts of a run: the configuration is loaded, its threshold put in force, and the command
carried out. -/
def stages (w : Surroundings) (i : Invocation) : World × Except RunError (List String) :=
  match (w.started i).take w.logPlace (w.loadConfig (w.started i).files i.config?) with
  | (world, .error e) => (world, .error (.config e))
  | (world, .ok config) =>
    let world := world.configure w.logPlace config.logLevel
    i.command.perform w.logPlace (world.take w.logPlace startNote).1 w.fonts config

/-- What a run leaves behind that has come to an end; the lines of the log go to the error output as
well if they are echoed there. -/
def finish (w : Surroundings) (world : World) (result : Except RunError (List String)) :
    Outcome where
  exitCode := if result.toOption.isSome then 0 else 1
  output := result.toOption.getD []
  errors := (if w.echoesLog then world.lines else [])
    ++ match result with
      | .ok _ => []
      | .error e => e.lines
  files := world.files
  log := world.log

/-- Carries out a command line that was understood. -/
def carryOut (w : Surroundings) (i : Invocation) : Outcome :=
  w.finish (w.stages i).1 (w.stages i).2

/-- The paths that matter to a command line. -/
def paths (w : Surroundings) (i : Invocation) : List String :=
  [w.logPath, i.config?.getD w.configPath] ++ i.command.picturePath?.toList

/-- Carries out a command line. -/
def run (w : Surroundings) (args : List String) : Except UsageError Outcome :=
  (Invocation.parse args).map w.carryOut

end Surroundings
end GlyphGrid
