import GlyphGrid.Cell.Buffer
import GlyphGrid.Shaping.Basic

/-!
# Glyphs

A glyph is what is kept for one content of a cell.  It is made without a description by
`Glyph.ofContent?` and described by `Glyph.populate`: a content that shapes to exactly one run
keeps that run and its baseline, any other keeps the whole layout, which is brought up to date
each time it is painted.
-/

namespace GlyphGrid

/-- How a glyph is painted. -/
inductive Description (F L : Type) where
  | empty
  /-- By a layout that is brought up to date first. -/
  | layout (layout : L)
  /-- By glyphs of one face, `baseline` pixels below the top of the cell. -/
  | run (face : F) (glyphs : GlyphString) (baseline : Nat)

/-- The kinds of description. -/
inductive GlyphKind where
  | empty
  | layout
  | run
  deriving DecidableEq

/-- The word for a kind of description. -/
def GlyphKind.name : GlyphKind → String
  | .empty => "Empty"
  | .layout => "Layout"
  | .run => "Run"

/-- The kind of a description. -/
def Description.kind {F L : Type} : Description F L → GlyphKind
  | .empty => .empty
  | .layout _ => .layout
  | .run .. => .run

namespace ShapedCluster

variable {F L : Type}

/-- The distance in pixels from the top to the baseline, rounded up. -/
@[irreducible] def baselinePixels (s : ShapedCluster F L) : Nat :=
  s.baseline.toPixelsCeil.toInt.toNat

/-- The width in pixels. -/
@[irreducible] def widthPixels (s : ShapedCluster F L) : Nat := s.logical.width.toPixels.toInt.toNat

/-- The fastest description that paints the cluster. -/
def describe (s : ShapedCluster F L) : Description F L :=
  match s.runs with
  | some [run] => .run run.face run.glyphs s.baselinePixels
  | _ => .layout s.layout

end ShapedCluster

/-- A content with its width in pixels and the way it is painted. -/
structure Glyph (F L : Type) where
  content : CellBuffer
  width : Nat
  description : Description F L

namespace Glyph

variable {C F L : Type}

/-- A glyph without a description, for a content that shows something. -/
def ofContent? (content : CellBuffer) : Except GlyphError (Glyph F L) :=
  if content.isEmpty then .error (.invalidArgument .emptyContent)
  else .ok ⟨content.duplicate, 0, .empty⟩

/-- The kind of the description. -/
def kind (g : Glyph F L) : GlyphKind := g.description.kind

/-- The glyph with the description of a shaped cluster. -/
def withCluster (g : Glyph F L) (s : ShapedCluster F L) : Glyph F L :=
  ⟨g.content, s.widthPixels, s.describe⟩

/-- Shapes the content afresh.  A failure is the engine's, and then the glyph stays as it was. -/
def populate? (engine : ShapingEngine C F L) (context : C) (g : Glyph F L) :
    Except GlyphError (Glyph F L) :=
  (engine.shape context g.content.text).map g.withCluster

/-- The record of a description. -/
def descriptionNote (g : Glyph F L) : Noted Unit :=
  .note .trace .glyph ("glyph: " ++ Text.Quoted.quote g.content.text ++ " described as "
    ++ g.kind.name ++ s!", width {g.width}")

/-- Shapes the content afresh and records the outcome. -/
def populate (engine : ShapingEngine C F L) (context : C) (g : Glyph F L) :
    Noted (Except GlyphError (Glyph F L)) :=
  match g.populate? engine context with
  | .error e => pure (.error e)
  | .ok g' => do
    g'.descriptionNote
    pure (.ok g')

/-- The glyph without its description. -/
def reset (g : Glyph F L) : Glyph F L :=
  ⟨g.content, 0, .empty⟩

/-- How a glyph is shown in a message. -/
def describe (g : Glyph F L) : String :=
  "Glyph \x7b content: " ++ g.content.describe ++ s!", width: {g.width}, kind: " ++ g.kind.name
    ++ " \x7d"

end Glyph
end GlyphGrid
