import GlyphGrid.Config.Basic
import GlyphGrid.Yaml.Writer

/-!
# Configurations as YAML

`Config.ofNode?` reads a configuration from a document: a mapping whose known keys come at most
once, every one of which may be left out, and whose other keys are ignored.  `Config.document`
writes one, a line or a block for each field.
-/

namespace GlyphGrid

namespace Yaml.Node

/-- The unsigned integer below a bound that a node holds.  It is written plainly, or as a literal
block with the tag of integers. -/
def unsigned? (bound : Nat) : Node → Option Nat
  | .scalar tag? s =>
    let isInteger := s.style = .plain
      || (s.style = .literal && tag? = some "tag:yaml.org,2002:int")
    if isInteger then (Yaml.unsigned? s.text).bind fun n => if n < bound then some n else none
    else none
  | _ => none

/-- The text that a node holds. -/
def text? : Node → Option String
  | .scalar _ s => some s.text
  | _ => none

/-- What a node holds if it is not nothing.  Only a plain scalar can be nothing: an empty one or a
word for nothing, without a tag or with the tag of nothing. -/
def optional? {α : Type} (read : Node → Option α) : Node → Option (Option α)
  | .scalar tag? s =>
    let n : Node := .scalar tag? s
    if s.style != .plain then (read n).map some
    else match tag? with
      | none => if s.text.isEmpty || isNullWord s.text then some none else (read n).map some
      | some tag =>
        if tag == "tag:yaml.org,2002:null" then (if isNullWord s.text then some none else none)
        else (read n).map some
  | n => (read n).map some

/-- The threshold that a node names, by its text or by its tag. -/
def logLevel? : Node → Option LogLevel
  | .scalar none s => LogLevel.ofWord? s.text
  | .scalar (some tag) s =>
    if s.style = .plain && (s.text.isEmpty || isNullWord s.text) then
      LogLevel.all.find? fun level => "!" ++ level.word == tag || level.word == tag
    else none
  | _ => none

/-- The colour that a node holds: four numbers below 256. -/
def color? : Node → Option Rgba
  | .sequence items =>
    (items.mapM (unsigned? 256)).bind fun channels => Rgba.ofChannels? (channels.map UInt8.ofNat)
  | _ => none

/-- The value of a key that comes at most once: `standard` if it is missing, and `none` if the key
comes twice or its value cannot be read. -/
def field? {α : Type} (entries : List (Node × Node)) (key : String) (standard : α)
    (read : Node → Option α) : Option α :=
  match entries.filter fun e => e.1.text? == some key with
  | [] => some standard
  | [e] => read e.2
  | _ => none

end Yaml.Node

namespace Config

open Yaml

/-- The configuration in a mapping. -/
def ofEntries? (entries : List (Node × Node)) : Option Config :=
  if !entries.all fun e => e.1.text?.isSome then none
  else do
    let height ← Node.field? entries "font_height" standard.fontHeight fun n =>
      (n.unsigned? UInt32.size).map UInt32.ofNat
    let family ← Node.field? entries "font_family" standard.fontFamily (Node.optional? Node.text?)
    let foreground ← Node.field? entries "foreground" standard.foreground Node.color?
    let background ← Node.field? entries "background" standard.background Node.color?
    let columns ← Node.field? entries "columns" standard.columns fun n =>
      (n.unsigned? UInt64.size).map UInt64.ofNat
    let level ← Node.field? entries "log_level" standard.logLevel (Node.optional? Node.logLevel?)
    some ⟨height, family, foreground, background, columns, level⟩

/-- The configuration in a document; an empty one changes nothing. -/
def ofNode? : Node → Option Config
  | .mapping entries => ofEntries? entries
  | .scalar _ s => if s.style = .plain && s.text.isEmpty then some standard else none
  | _ => none

/-- The configuration in a text. -/
def parse? (text : List Char) : Option Config :=
  (Node.read? text).bind fun
    | none => some standard
    | some n => ofNode? n

/-! ## Writing -/

/-- The line of a key and a word that needs no quotes. -/
def wordLine (key word : String) : List Char := (key ++ ": " ++ word ++ "\n").toList

/-- The lines of a key and a colour. -/
def colorLines (key : String) (color : Rgba) : List Char :=
  (key ++ ":\n").toList ++ color.channels.flatMap fun n => s!"- {n.toNat}\n".toList

/-- The lines of a configuration. -/
def document (c : Config) : List Char :=
  wordLine "font_height" (toString c.fontHeight.toNat)
  ++ (match c.fontFamily with
    | none => wordLine "font_family" "null"
    | some family => Written.entry "font_family" family)
  ++ colorLines "foreground" c.foreground
  ++ colorLines "background" c.background
  ++ wordLine "columns" (toString c.columns.toNat)
  ++ wordLine "log_level" (c.logLevel.elim "null" LogLevel.word)

end Config
end GlyphGrid
