import GlyphGrid.Shaping.Basic
import GlyphGrid.Text.Utf8

/-!
# An engine that follows a script

`Script` says how texts are shaped without any font: every character has an advance that follows
a simple rule, and exceptions are listed.  `Script.engine` is the engine that obeys, and
`recordingSurface` a surface that only writes down what it is told, so that together they show
every call that a cache makes.
-/

namespace GlyphGrid

/-- An exception for some texts. -/
structure ScriptRule where
  text? : Option String
  /-- A piece that the texts have in common that the rule is for. -/
  piece? : Option String
  failure? : Option GlyphError
  glyphs? : Option (List ShapedGlyph)
  width? : Option Fixed
  baseline? : Option Fixed
  /-- How many runs they have; a negative number is for texts without a line. -/
  runs : Int

namespace ScriptRule

/-- A rule that changes nothing. -/
def plain : ScriptRule := ⟨none, none, none, none, none, none, 1⟩

/-- Whether `piece` stands somewhere in the characters. -/
def occursIn (piece : List Char) : List Char → Bool
  | [] => piece.isEmpty
  | c :: rest => piece.isPrefixOf (c :: rest) || occursIn piece rest

/-- Whether a rule is for a text. -/
def applies (rule : ScriptRule) (text : String) : Bool :=
  rule.text?.any (· == text) || rule.piece?.any fun piece => occursIn piece.toList text.toList

end ScriptRule

/-- How texts are shaped. -/
structure Script where
  advance : Fixed
  /-- What is added for each place within a cycle of code points. -/
  step : Fixed
  cycle : Nat
  baseline : Fixed
  /-- The exceptions; the first that applies counts. -/
  rules : List ScriptRule
  contextFailure? : Option GlyphError

namespace Script

/-- Controls, which have no glyph. -/
def isControl (c : Char) : Bool := c.toNat < 0x20 || (0x7F ≤ c.toNat && c.toNat < 0xA0)

/-- Accents, which have no advance. -/
def isAccent (c : Char) : Bool := 0x300 ≤ c.toNat && c.toNat ≤ 0x36F

/-- The advance of a character. -/
def advanceOf (s : Script) (c : Char) : Fixed :=
  if isAccent c then 0 else s.advance + Int32.ofNat (c.toNat % s.cycle) * s.step

/-- One glyph for each character that is no control, the first character standing at byte
`position`. -/
def glyphsOf (s : Script) (position : Nat) : List Char → List ShapedGlyph
  | [] => []
  | c :: rest =>
    let others := s.glyphsOf (position + c.utf8Size) rest
    if isControl c then others else ⟨c.toNat, position, s.advanceOf c, 0, 0⟩ :: others

/-- Copies of the same glyphs, each in a face of its own. -/
def runsOf (height : Nat) (glyphs : GlyphString) (count : Int) :
    Option (List (GlyphRun String)) :=
  if count < 0 then none
  else some ((List.range count.toNat).map fun i => ⟨s!"F{height}.{i}", glyphs⟩)

/-- Shapes a text at a height. -/
def shape (s : Script) (height : Nat) (text : String) :
    Except GlyphError (ShapedCluster String String) :=
  let rule := (s.rules.find? (·.applies text)).getD .plain
  match rule.failure? with
  | some e => .error e
  | none =>
    let glyphs : GlyphString := ⟨rule.glyphs?.getD (s.glyphsOf 0 text.toList)⟩
    .ok {
      logical := ⟨0, 0, rule.width?.getD glyphs.width, 0⟩
      baseline := rule.baseline?.getD (Fixed.clamp (height * s.baseline.toInt))
      runs := runsOf height glyphs rule.runs
      layout := "L:" ++ text }

/-- The engine that follows a script; a context is a height. -/
def engine (s : Script) : ShapingEngine Nat String String where
  createContext height := pure (match s.contextFailure? with
    | some e => .error e
    | none => .ok height)
  shape height text := s.shape height text

end Script

/-! ## Recording -/

/-- A call that a surface received. -/
inductive SurfaceCall (F L : Type) where
  | move (x y : Rat)
  | update (layout : L)
  | layout (layout : L)
  | glyphs (face : F) (glyphs : GlyphString)

/-- The calls that can fail. -/
inductive FallibleCall where
  | update
  | layout
  | glyphs
  deriving DecidableEq

/-- The word for a call that can fail. -/
def FallibleCall.name : FallibleCall → String
  | .update => "update"
  | .layout => "layout"
  | .glyphs => "glyphs"

/-- The answer to a call, which fails if its kind is refused. -/
def FallibleCall.answer {α : Type} (refused : List FallibleCall) (call : FallibleCall) (a : α) :
    Except GlyphError α :=
  if call ∈ refused then .error (.inconsistent ("surface refused " ++ call.name)) else .ok a

/-- A surface that writes down its calls in order and refuses some kinds of them. -/
def recordingSurface (F L : Type) (refused : List FallibleCall) :
    DrawingSurface (List (SurfaceCall F L)) F L where
  moveTo calls x y := calls ++ [.move x y]
  updateLayout calls l := pure (calls ++ [.update l], FallibleCall.update.answer refused l)
  showLayout calls l := pure (calls ++ [.layout l], FallibleCall.layout.answer refused ())
  showGlyphs calls face s :=
    pure (calls ++ [.glyphs face s], FallibleCall.glyphs.answer refused ())

end GlyphGrid
