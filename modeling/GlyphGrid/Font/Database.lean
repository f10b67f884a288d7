import GlyphGrid.Error
import GlyphGrid.Font.Stack
import GlyphGrid.Log.Record

/-!
# Finding fonts

A `FontDatabase` is what a system knows of its fonts: what each face says of itself, which face is
the regular one of a family, and the file that a face is read from.  How a family is matched is up
to the database.  `FontStack.select` puts a stack together from one: the family that is asked for or
else a monospace face, and after it the fallback families that are installed.
-/

namespace GlyphGrid

/-- What a face says of itself. -/
structure FontRecord where
  /-- The number of the face in its database. -/
  id : Nat
  /-- The names of its family, the usual one first. -/
  families : List String
  isMonospaced : Bool
  weight : Nat
  style : FontStyle
  deriving DecidableEq

/-- The installed fonts. -/
structure FontDatabase where
  /-- The faces, in order. -/
  records : List FontRecord
  /-- The family that stands for monospace fonts. -/
  monospaceFamily : String
  /-- The regular face of a family. -/
  regular? : String → Option Nat
  /-- The file that a face is in and its number there, if the file can be read. -/
  file? : Nat → Option (FontFile × Nat)

/-- The name of the monospace face that the generic family stands for. -/
def genericLabel : String := "monospace"

/-- The families that are tried after the primary face, in order. -/
def fallbackFamilies : List String :=
  ["DejaVu Sans Mono", "Noto Sans Mono", "Liberation Mono", "Menlo", "Consolas",
    "Noto Sans CJK JP", "Noto Sans CJK SC", "Microsoft YaHei",
    "Symbols Nerd Font", "Noto Sans Symbols", "Noto Sans Symbols 2", "Segoe UI Symbol", "Symbola",
    "DejaVu Sans", "Arial Unicode MS"]

/-- The regular weight. -/
def regularWeight : Nat := 400

/-- How far a weight is from regular in either direction. -/
def weightDistance (weight : Nat) : Nat :=
  (weight - regularWeight) + (regularWeight - weight)

/-- The first of the least elements under a key. -/
def firstLeast? {α : Type} (key : α → Nat) : List α → Option α
  | [] => none
  | a :: rest =>
    match firstLeast? key rest with
    | none => some a
    | some b => if key a ≤ key b then some a else some b

/-- The name that a face goes by. -/
def FontRecord.label (r : FontRecord) : String := r.families.head?.getD genericLabel

/-- Whether a face is upright and all its characters are of one width. -/
def FontRecord.isUprightMonospace (r : FontRecord) : Bool := r.isMonospaced && r.style = .normal

namespace FontDatabase

/-- Loads a face under a name. -/
def load? (db : FontDatabase) (id : Nat) (label : String) : Option LoadedFace :=
  (db.file? id).bind fun (file, index) => file.load? label index

/-- Loads the regular face of a family. -/
def loadFamily? (db : FontDatabase) (family : String) : Option LoadedFace :=
  (db.regular? family).bind fun id => db.load? id family

/-- The upright monospace face whose weight is nearest to regular. -/
def nearestMonospace? (db : FontDatabase) : Option FontRecord :=
  firstLeast? (fun r => weightDistance r.weight)
    (db.records.filter FontRecord.isUprightMonospace)

/-- Loads a monospace face: that of the generic family if there is one, and otherwise the upright
monospace face that is nearest to regular. -/
def loadMonospace (db : FontDatabase) : Noted (Option LoadedFace) :=
  match db.regular? db.monospaceFamily with
  | some id => pure (db.load? id genericLabel)
  | none => match db.nearestMonospace? with
    | none => pure none
    | some r => do
      .note .info .fontLoader
        ("Generic monospace family unresolved, using '" ++ r.label ++ "'")
      pure (db.load? r.id r.label)

/-- Loads the family that is asked for, or else a monospace face. -/
def loadPrimary (db : FontDatabase) (family? : Option String) : Noted (Option LoadedFace) :=
  match family? with
  | none => db.loadMonospace
  | some family => do
    .note .info .fonts ("Attempting to load primary font: " ++ family)
    match db.loadFamily? family with
    | some face =>
      .note .info .fonts ("Successfully loaded primary font: " ++ family)
      pure (some face)
    | none =>
      .note .warn .fonts
        ("Primary font '" ++ family ++ "' not found, using the system monospace font")
      db.loadMonospace

/-- Loads the families of a list that are there, other than the one named `label`. -/
def loadFallbacks (db : FontDatabase) (label : String) : List String → Noted (List LoadedFace)
  | [] => pure []
  | family :: rest =>
    if family = label then db.loadFallbacks label rest
    else match db.loadFamily? family with
      | none => db.loadFallbacks label rest
      | some face => do
        .note .debug .fonts ("Added fallback font: " ++ family)
        let faces ← db.loadFallbacks label rest
        pure (face :: faces)

end FontDatabase

/-- The stack for a family, or for monospace text. -/
def FontStack.select (db : FontDatabase) (family? : Option String) :
    Noted (Except GlyphError FontStack) := do
  .note .info .fonts s!"Loaded {db.records.length} system fonts"
  match ← db.loadPrimary family? with
  | none => pure (.error (.fontUnavailable "no monospace font is installed"))
  | some primary =>
    let fallbacks ← db.loadFallbacks primary.label fallbackFamilies
    .note .info .fonts s!"Loaded {fallbacks.length} fallback fonts"
    pure (.ok ⟨primary, fallbacks⟩)

end GlyphGrid
