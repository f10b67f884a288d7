import GlyphGrid.Cache.Basic

/-!
# Drawing without a table

`drawBy` shapes a content and paints it at once.  It says in one step what drawing a cell means: an
empty content is refused, one run is painted on its baseline, and anything else is painted as a
layout that has been brought up to date.

How far below the top a run is painted is said in two ways.  `drawDirect` rounds the baseline up to
a whole pixel that is never above the cell; `drawFresh` computes in words of 32 bits, as a glyph
does.
-/

namespace GlyphGrid

variable {C F L S : Type}

/-- Paints a shaped cluster with the top left corner of its cell at `(x, y)`, and a single run so
many pixels below. -/
def ShapedCluster.paintAt (s : ShapedCluster F L) (baseline : Int) (surface : DrawingSurface S F L)
    (state : S) (x y : Nat) : Noted (S × Except GlyphError Unit) :=
  match s.runs with
  | some [run] =>
    surface.showGlyphs (surface.moveTo state x ((y : Rat) + (baseline : Rat))) run.face run.glyphs
  | _ => do
    match ← surface.updateLayout (surface.moveTo state x y) s.layout with
    | (state, .error e) => pure (state, .error e)
    | (state, .ok layout) => surface.showLayout state layout

/-- Shapes a content and paints it, a single run as far below as `baselineOf` says. -/
def drawBy (baselineOf : Fixed → Int) (engine : ShapingEngine C F L) (context : C)
    (surface : DrawingSurface S F L) (state : S) (content : CellBuffer) (x y : Nat) :
    Noted (S × Except GlyphError Unit) :=
  if content.content = [] then pure (state, .error (.invalidArgument .emptyContent))
  else match engine.shape context content.text with
    | .error e => pure (state, .error e)
    | .ok s => s.paintAt (baselineOf s.baseline) surface state x y

/-- Shapes a content and paints it, with the baseline of a glyph. -/
def drawFresh (engine : ShapingEngine C F L) (context : C) (surface : DrawingSurface S F L)
    (state : S) (content : CellBuffer) (x y : Nat) : Noted (S × Except GlyphError Unit) :=
  drawBy (fun baseline => baseline.toPixelsCeil.toInt.toNat) engine context surface state content
    x y

end GlyphGrid
