import GlyphGrid.Cache.Basic

/-!
# Layouts that are brought up to date in place

A layout belongs to the glyph that it was made for.  When a surface brings it up to date, what the
glyph has from then on is the later layout, so that `drawInPlace` answers with a table that keeps
it.  A layout that could not be brought up to date stays as it was.

For layouts whose later state does not depend on the earlier one, drawing in place is `draw`, which
leaves the table alone.
-/

namespace GlyphGrid

variable {C F L : Type}

/-- The description with another layout, if it has one. -/
def Description.mapLayout (f : L → L) : Description F L → Description F L
  | .layout l => .layout (f l)
  | .run face glyphs baseline => .run face glyphs baseline
  | .empty => .empty

/-- The glyph with another layout, if it has one. -/
def Glyph.mapLayout (f : L → L) (g : Glyph F L) : Glyph F L :=
  ⟨g.content, g.width, g.description.mapLayout f⟩

namespace GlyphCache

/-- The cache with other layouts, which may depend on the content that they are for. -/
def mapLayouts (cache : GlyphCache C F L) (f : List UInt8 → L → L) : GlyphCache C F L :=
  ⟨cache.engine, cache.context, cache.height, cache.width,
    cache.entries.map fun e => ⟨e.key, e.glyph.mapLayout (f e.key.content)⟩, cache.requests⟩

/-- The cache with another layout for a content. -/
def setLayout (cache : GlyphCache C F L) (content : CellBuffer) (later : L) : GlyphCache C F L :=
  cache.mapLayouts fun bytes layout => if content.content = bytes then later else layout

/-- Paints a described glyph with the top left corner of its cell at `(x, y)`, and answers with its
layout as well if that was brought up to date. -/
def paintInPlace {S : Type} (surface : DrawingSurface S F L) (state : S) (glyph : Glyph F L)
    (x y : Nat) : Noted (Option L × S × Except GlyphError Unit) :=
  match glyph.description with
  | .layout layout => do
    let state := surface.moveTo state x y
    match ← surface.updateLayout state layout with
    | (state, .error e) => pure (none, state, .error e)
    | (state, .ok layout) =>
      let (state, result) ← surface.showLayout state layout
      pure (some layout, state, result)
  | _ => do
    let (state, result) ← paint surface state glyph x y
    pure (none, state, result)

/-- Draws a content with the top left corner of its cell at `(x, y)`, and keeps the layout that was
brought up to date. -/
def drawInPlace {S : Type} (cache : GlyphCache C F L) (surface : DrawingSurface S F L) (state : S)
    (content : CellBuffer) (x y : Nat) :
    Noted (GlyphCache C F L × S × Except GlyphError Unit) := do
  match ← cache.lookup content with
  | (cache, .error e) => pure (cache, state, .error e)
  | (cache, .ok slot) =>
    let (layout?, state, result) ← paintInPlace surface state slot.glyph x y
    pure (layout?.elim cache (cache.setLayout content), state, result)

end GlyphCache
end GlyphGrid
