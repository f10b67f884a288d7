import GlyphGrid.Command.Run
import GlyphGrid.Font.Document
import GlyphGrid.Raster.Png

/-!
# The program

`main` gathers what a run finds, lets `Surroundings.run` say what it leaves behind, and carries that
over to the file system and the two outputs.  The installed fonts are described in a file that the
environment names.
-/

namespace GlyphGrid.Program

/-- What is at a place of the file system. -/
def lookAt (place : Location) : IO (Option FileEntry) := do
  let path := (← IO.currentDir) / ("/" ++ "/".intercalate place)
  if ← path.isDir then return some .directory
  try
    return some (.file (← IO.FS.readBinFile path).toList)
  catch _ => return none

/-- The part of the file system that some paths lead through. -/
def lookAround (working : Location) (paths : List String) : IO FileTree := do
  let mut tree : FileTree := ⟨[]⟩
  for path in paths do
    for place in FileTree.placesOn working path do
      if let some entry ← lookAt place then tree := tree.set place entry
  return tree

/-- Writes bytes to a place of the file system. -/
def store (place : Location) (bytes : List UInt8) : IO Unit := do
  let path := (← IO.currentDir) / ("/" ++ "/".intercalate place)
  IO.FS.writeBinFile path ⟨bytes.toArray⟩

/-- Carries the log and the pictures of a run over to the file system. -/
def storeAll (w : Surroundings) (outcome : Outcome) : IO Unit := do
  if outcome.log.isOpen then
    if let some place := outcome.files.locate? w.working w.logPath then
      if let some bytes := outcome.files.read? w.working w.logPath then
        store place bytes
  for (place, entry) in outcome.files.entries do
    if let .picture image patches := entry then
      store place (patches.foldl (fun bytes p => overlay bytes p.1 p.2) (Png.encode image))

/-- The installed fonts. -/
def installedFonts : IO Catalogue := do
  match ← IO.getEnv "CELLGLYPH_FONTS" with
  | none => return .ofBytes []
  | some path =>
    try
      return .ofBytes (← IO.FS.readBinFile path).toList
    catch _ => return .ofBytes []

/-- The time in seconds and millionths of a second. -/
def now : IO String := do
  let micros := (← IO.monoNanosNow) / 1000
  let fraction := toString (micros % 1000000)
  let zeros := String.ofList (List.replicate (6 - fraction.length) '0')
  return s!"{micros / 1000000}." ++ zeros ++ fraction

/-- What a run finds, without its files. -/
def gather : IO Surroundings := do
  let temporary := (← IO.getEnv "TMPDIR").getD "/tmp"
  return {
    files := ⟨[]⟩
    working := pathNames (← IO.currentDir).toString
    fonts := ← installedFonts
    home? := ← IO.getEnv "HOME"
    configHome? := ← IO.getEnv "XDG_CONFIG_HOME"
    debugLevel? := ← IO.getEnv "DEBUG_LEVEL"
    echoesLog := (← IO.getEnv "RUST_LOG").isSome
    logPath := joinPath temporary "cellglyph_debug.log"
    time := ← now }

/-- Says why a command line is not carried out. -/
def refuse (e : UsageError) : IO UInt32 := do
  let print := if e.exitCode = 0 then IO.println else IO.eprintln
  for line in e.message :: (if e = .version then [] else usageLines) do
    print line
  return UInt32.ofNat e.exitCode

/-- Carries out a command line that was understood. -/
def carryOut (i : Invocation) : IO UInt32 := do
  let w ← gather
  let w := { w with files := ← lookAround w.working (w.paths i) }
  let outcome := w.carryOut i
  try
    storeAll w outcome
    outcome.output.forM IO.println
    outcome.errors.forM IO.eprintln
    return UInt32.ofNat outcome.exitCode
  catch _ =>
    let e := RunError.unwritable (i.command.picturePath?.getD w.logPath)
    (e.summary :: e.report).forM IO.eprintln
    return 1

end GlyphGrid.Program

/-- Reads the command line and carries it out. -/
def main (args : List String) : IO UInt32 :=
  match GlyphGrid.Invocation.parse args with
  | .error e => GlyphGrid.Program.refuse e
  | .ok i => GlyphGrid.Program.carryOut i
