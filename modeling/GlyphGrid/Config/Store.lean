import GlyphGrid.Config.Document
import GlyphGrid.Files
import GlyphGrid.Text.Quoted
import GlyphGrid.Text.Utf8

/-!
# Where configurations are kept

A configuration is kept in a file, by default in a directory for configurations that the
environment names.  A missing file is as good as one that changes nothing.
-/

namespace GlyphGrid.Config

/-- The directory of the program's configuration.  `base?` names the directory for configurations,
if it is absolute, and otherwise it is a hidden one in the home directory. -/
def directory (home? base? : Option String) : String :=
  match base?.filter isAbsolute with
  | some base => joinPath base "cellglyph"
  | none => match home? with
    | some home => joinPath (joinPath home ".config") "cellglyph"
    | none => "."

/-- The file of the program's configuration. -/
def defaultPath (home? base? : Option String) : String :=
  joinPath (directory home? base?) "config.yaml"

/-- The configuration in some bytes. -/
def ofBytes (path : String) (bytes : List UInt8) : Except ConfigError Config :=
  match Utf8.decode? bytes with
  | none => .error (.unreadable path)
  | some text => match parse? text with
    | none => .error (.malformed path)
    | some config => config.validate

/-- Reads the configuration in a file. -/
def load (files : FileTree) (working : Location) (path : String) :
    Noted (Except ConfigError Config) := do
  .note .info .configuration ("Config path: " ++ Text.Quoted.quote path)
  match files.find? working path with
  | none =>
    .note .info .configuration "Config file not found, using defaults"
    pure (.ok standard)
  | some (.file bytes) => pure (ofBytes path bytes)
  | some _ => pure (.error (.unreadable path))

/-- Writes the configuration to a file, in a directory that is made if it is missing. -/
def save? (c : Config) (files : FileTree) (working : Location) (path : String) :
    Option FileTree := do
  let files ← files.makeDirectories? working (parentPath path)
  files.write? working path (Utf8.encode c.document)

end GlyphGrid.Config
