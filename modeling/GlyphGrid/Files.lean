import GlyphGrid.Raster.Image

/-!
# Files

`FileTree` is what a run can see of a file system: regular files with their bytes, and
directories, each under the names that lead to it from the root.  A path is a text; it is followed
name by name from the working directory or from the root, and every name but the last has to be a
directory.
-/

namespace GlyphGrid

/-- The names that lead from the root to a place. -/
abbrev Location := List String

/-- What is at a place. -/
inductive FileEntry where
  | file (bytes : List UInt8)
  /-- A regular file that a picture was written to; its bytes are no text.  What was written over
  them since is in the patches, one after the other, each with the byte that it begins at. -/
  | picture (image : Image) (patches : List (Nat × List UInt8))
  | directory

/-- Bytes with others written over them from a place on; a gap in between is filled with zeros. -/
def overlay (old : List UInt8) (position : Nat) (bytes : List UInt8) : List UInt8 :=
  old.take position ++ List.replicate (position - old.length) 0 ++ bytes
    ++ old.drop (position + bytes.length)

/-- A regular file with bytes written over its own from a place on. -/
def FileEntry.overwrite? (entry : FileEntry) (position : Nat) (bytes : List UInt8) :
    Option FileEntry :=
  match entry with
  | .file old => some (.file (overlay old position bytes))
  | .picture image patches => some (.picture image (patches ++ [(position, bytes)]))
  | .directory => none

/-- The files and directories other than the root. -/
structure FileTree where
  entries : List (Location × FileEntry)

/-- The names in a path, without those that say nothing. -/
def pathNames (path : String) : List String :=
  ((path.splitOn "/").filter fun name => name != "" && name != ".")

/-- Whether a path starts at the root. -/
def isAbsolute (path : String) : Bool := path.toList.head? = some '/'

/-- Whether a path can only lead to a directory. -/
def endsInDirectory (path : String) : Bool :=
  match (path.splitOn "/").getLast? with
  | some last => last == "" || last == "." || last == ".."
  | none => false

/-- A path followed by another; one that starts at the root stands alone. -/
def joinPath (base path : String) : String :=
  if isAbsolute path || base.isEmpty then path
  else if base.toList.getLast? = some '/' then base ++ path
  else base ++ "/" ++ path

/-- The path of the directory around a path. -/
def parentPath (path : String) : String :=
  (if isAbsolute path then "/" else "") ++ "/".intercalate (pathNames path).dropLast

namespace FileTree

/-- What is at a place; the root is a directory. -/
def get? (t : FileTree) (place : Location) : Option FileEntry :=
  if place.isEmpty then some .directory
  else (t.entries.find? (·.1 == place)).map (·.2)

/-- Puts something at a place. -/
def set (t : FileTree) (place : Location) (entry : FileEntry) : FileTree :=
  ⟨(place, entry) :: t.entries.filter (·.1 != place)⟩

/-- Whether a place is a directory. -/
def isDirectory (t : FileTree) (place : Location) : Bool :=
  match t.get? place with
  | some .directory => true
  | _ => false

/-- Where a name leads from a place. -/
def step (place : Location) (name : String) : Location :=
  if name == ".." then place.dropLast else place ++ [name]

/-- Where a path starts. -/
def origin (working : Location) (path : String) : Location :=
  if isAbsolute path then [] else working

/-- The places that names lead through from a place, and the one they lead to. -/
def placesFrom (place : Location) : List String → List Location
  | [] => [place]
  | name :: rest => place :: placesFrom (step place name) rest

/-- The places that matter to a path: those that it leads through, and the one it leads to. -/
def placesOn (working : Location) (path : String) : List Location :=
  placesFrom (origin working path) (pathNames path)

/-- Follows names from a place. -/
def follow? (t : FileTree) (place : Location) : List String → Option Location
  | [] => some place
  | name :: rest =>
    if !t.isDirectory place then none
    else t.follow? (step place name) rest

/-- The place that a path leads to from a working directory. -/
def locate? (t : FileTree) (working : Location) (path : String) : Option Location := do
  if path.isEmpty then none
  let place ← t.follow? (origin working path) (pathNames path)
  if endsInDirectory path && !t.isDirectory place then none
  some place

/-- What a path leads to. -/
def find? (t : FileTree) (working : Location) (path : String) : Option FileEntry :=
  (t.locate? working path).bind t.get?

/-- The bytes of the regular file that a path leads to. -/
def read? (t : FileTree) (working : Location) (path : String) : Option (List UInt8) :=
  match t.find? working path with
  | some (.file bytes) => some bytes
  | _ => none

/-- Puts a regular file where a path leads to, if there is a directory around it and none in its
place. -/
def put? (t : FileTree) (working : Location) (path : String) (entry : FileEntry) :
    Option FileTree := do
  let place ← t.locate? working path
  if t.isDirectory place || !t.isDirectory place.dropLast then none
  some (t.set place entry)

/-- Replaces or makes the regular file that a path leads to. -/
def write? (t : FileTree) (working : Location) (path : String) (bytes : List UInt8) :
    Option FileTree :=
  t.put? working path (.file bytes)

/-- Writes bytes over those of the regular file that a path leads to, from a place in it on. -/
def overwrite? (t : FileTree) (working : Location) (path : String) (position : Nat)
    (bytes : List UInt8) : Option FileTree := do
  let entry ← t.find? working path
  let later ← entry.overwrite? position bytes
  t.put? working path later

/-- Makes the directories that names lead to from a place, where they are missing. -/
def makeDirectoriesFrom? (t : FileTree) (place : Location) : List String → Option FileTree
  | [] => some t
  | name :: rest =>
    let next := step place name
    match t.get? next with
    | some .directory => t.makeDirectoriesFrom? next rest
    | some _ => none
    | none => (t.set next .directory).makeDirectoriesFrom? next rest

/-- Makes the directory that a path leads to, and those around it, where they are missing. -/
def makeDirectories? (t : FileTree) (working : Location) (path : String) : Option FileTree :=
  t.makeDirectoriesFrom? (origin working path) (pathNames path)

end FileTree
end GlyphGrid
