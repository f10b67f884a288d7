import GlyphGrid.Glyph
import GlyphGrid.Proofs.Units.Rounding

/-!
# What a glyph takes from a cluster

A glyph keeps three things of the cluster that its content was shaped to: the width and the baseline
in whole pixels, and a run if there is exactly one.  This file says what they are without the
rounding by shifts and without the cases of `ShapedCluster.describe`.
-/

namespace GlyphGrid

variable {C F L : Type}

namespace ShapedCluster

lemma baselinePixels_eq (s : ShapedCluster F L) :
    s.baselinePixels = s.baseline.toPixelsCeil.toInt.toNat := by
  unfold baselinePixels
  rfl

lemma widthPixels_eq (s : ShapedCluster F L) :
    s.widthPixels = s.logical.width.toPixels.toInt.toNat := by
  unfold widthPixels
  rfl

lemma isBaseline_baselinePixels (s : ShapedCluster F L) :
    Fixed.IsBaseline s.baseline.toInt s.baselinePixels := by
  rw [baselinePixels_eq]
  exact Fixed.isBaseline_toPixelsCeil s.baseline

lemma isWidth_widthPixels (s : ShapedCluster F L) :
    Fixed.IsWidth s.logical.width.toInt s.widthPixels := by
  rw [widthPixels_eq]
  exact Fixed.isWidth_toPixels s.logical.width

lemma describe_of_single (s : ShapedCluster F L) {run : GlyphRun F} (h : s.runs = some [run]) :
    s.describe = .run run.face run.glyphs s.baselinePixels := by
  rw [describe, h]

lemma describe_of_not_single (s : ShapedCluster F L) (h : ∀ run, s.runs ≠ some [run]) :
    s.describe = .layout s.layout := by
  unfold describe
  split
  · next run hrun => exact absurd hrun (h run)
  · rfl

lemma describe_ne_empty (s : ShapedCluster F L) : s.describe ≠ .empty := by
  unfold describe
  split
  · exact nofun
  · exact nofun

end ShapedCluster

/-- Describing a glyph records it, and is otherwise the description alone. -/
lemma Glyph.populate_value (engine : ShapingEngine C F L) (context : C) (g : Glyph F L) :
    (g.populate engine context).value = g.populate? engine context := by
  rw [populate]
  cases g.populate? engine context <;> rfl

end GlyphGrid
