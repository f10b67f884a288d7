import GlyphGrid.Files
import GlyphGrid.Log.Level
import GlyphGrid.Text.Utf8

/-!
# The log of a run

A `LogSession` is a threshold that may still be lowered or raised by the configuration, and a log
file that is opened as soon as the threshold keeps anything.  A file that cannot be opened is done
without.  Each line goes behind the one before it, also if the file was replaced in the meantime.
-/

namespace GlyphGrid

/-- Where a log goes and what time it shows. -/
structure LogPlace where
  working : Location
  path : String
  time : String

/-- The log in the course of a run. -/
structure LogSession where
  level : LogLevel
  /-- Whether the command line or the environment named the threshold. -/
  isFixed : Bool
  /-- How many bytes were written to the file, if it is open. -/
  position? : Option Nat
  /-- How often the file was to be opened. -/
  attempts : Nat

namespace LogSession

/-- Whether the file is open. -/
def isOpen (s : LogSession) : Bool := s.position?.isSome

/-- A rule across the head of the log. -/
def rule : String := String.ofList (List.replicate 80 '=')

/-- The lines that open a log. -/
def header (time : String) : List String :=
  [rule, "cellglyph debug session started at " ++ time, rule]

/-- The bytes of some lines. -/
def bytesOf (lines : List String) : List UInt8 :=
  lines.flatMap fun line => Utf8.encodeText (line ++ "\n")

/-- The bytes at the head of a log. -/
def head (place : LogPlace) : List UInt8 := bytesOf (header place.time)

/-- Opens the file unless it is open; what was in it is lost. -/
def ensureOpen (place : LogPlace) (s : LogSession) (files : FileTree) : LogSession × FileTree :=
  if s.isOpen then (s, files)
  else match files.write? place.working place.path (head place) with
    | none => (⟨s.level, s.isFixed, none, s.attempts + 1⟩, files)
    | some files => (⟨s.level, s.isFixed, some (head place).length, s.attempts + 1⟩, files)

/-- Puts a threshold in force and opens the file if something is kept. -/
def setLevel (place : LogPlace) (s : LogSession) (level : LogLevel) (files : FileTree) :
    LogSession × FileTree :=
  let s : LogSession := ⟨level, s.isFixed, s.position?, s.attempts⟩
  if level = .off then (s, files) else s.ensureOpen place files

/-- The log at the start of a run. -/
def start (place : LogPlace) (commandLine : Option LogLevel) (setting? : Option String)
    (files : FileTree) : LogSession × FileTree :=
  let level? := LogLevel.atStartup? commandLine setting?
  setLevel place ⟨.off, level?.isSome, none, 0⟩ (level?.getD .off) files

/-- The log once the configuration is known. -/
def configure (place : LogPlace) (s : LogSession) (level? : Option LogLevel) (files : FileTree) :
    LogSession × FileTree :=
  match level? with
  | none => (s, files)
  | some level => if s.isFixed then (s, files) else s.setLevel place level files

/-- The lines of the records that are kept. -/
def lines (place : LogPlace) (s : LogSession) (records : List LogRecord) : List String :=
  (records.filter (·.isKept s.level)).map (·.line place.time)

/-- Writes a line to the file, if it is open. -/
def append (place : LogPlace) (s : LogSession) (line : String) (files : FileTree) :
    LogSession × FileTree :=
  match s.position? with
  | none => (s, files)
  | some position =>
    let bytes := bytesOf [line]
    match files.overwrite? place.working place.path position bytes with
    | none => (s, files)
    | some files => (⟨s.level, s.isFixed, some (position + bytes.length), s.attempts⟩, files)

end LogSession
end GlyphGrid
