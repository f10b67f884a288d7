import GlyphGrid.Proofs.Glyph.Cluster
import GlyphGrid.Proofs.Units.WholePixels

/-!
# Measures of a glyph

A glyph has whole pixels where its cluster has distances, and neither of its two measures is below
zero: the width is rounded to the nearest pixel, and the baseline of a run upwards.  So a glyph has
a width where its cluster is half a pixel wide, and its baseline covers that of the cluster with
less than a pixel to spare (`Glyph.MeasuredBy`).  No more is needed for it than that the two ways to
round are adjoint to whole pixels, as long as what they add leaves 32 bits enough.
-/

namespace GlyphGrid

variable {C F L : Type}

/-- A glyph has the width of a cluster and, if it is painted as a run, the baseline. -/
structure Glyph.MeasuredBy (g : Glyph F L) (s : ShapedCluster F L) : Prop where
  width_eq : (g.width : Int) = max 0 s.logical.width.toPixels.toInt
  width_pos_iff : 0 < g.width ↔
    512 ≤ s.logical.width.toInt ∧ s.logical.width.toInt + 512 ≤ Fixed.maxUnits
  run : ∀ run, s.runs = some [run] → ∃ baseline : Nat,
    g.description = .run run.face run.glyphs baseline ∧
    (s.baseline.toInt + 1023 ≤ Fixed.maxUnits → Fixed.CoveredBy s.baseline.toInt baseline)

lemma Glyph.measuredBy_withCluster (g : Glyph F L) (s : ShapedCluster F L) :
    (g.withCluster s).MeasuredBy s where
  width_eq := by
    change (s.widthPixels : Int) = _
    rw [s.widthPixels_eq, Int.toNat_eq_max, Int.max_comm]
  width_pos_iff := s.isWidth_widthPixels.pos_iff
  run _ hrun :=
    ⟨s.baselinePixels, s.describe_of_single hrun, s.isBaseline_baselinePixels.coveredBy⟩

lemma Glyph.populate_measuredBy {engine : ShapingEngine C F L} {context : C} {g : Glyph F L}
    {s : ShapedCluster F L} (shaped : engine.shape context g.content.text = .ok s) :
    ∃ later, (g.populate engine context).value = .ok later ∧ later.MeasuredBy s := by
  refine ⟨g.withCluster s, ?_, g.measuredBy_withCluster s⟩
  rw [populate_value, populate?, shaped]
  rfl

/-- **Measures are rounded distances.**  A sum and a quotient round every distance, below zero or
not, to the nearest pixel or upwards; words of 32 bits are rounded alike just as long as the sum
fits; and whatever glyph is described by whatever engine, its width and its baseline are so
rounded. -/
theorem measures_rounded :
    Fixed.RoundsToPixels Fixed.nearestPixel Fixed.coveringPixel ∧
    (∀ u : Fixed, u.toPixels.toInt = Fixed.nearestPixel u.toInt ↔
      u.toInt + 512 ≤ Fixed.maxUnits) ∧
    (∀ u : Fixed, u.toPixelsCeil.toInt = Fixed.coveringPixel u.toInt ↔
      u.toInt + 1023 ≤ Fixed.maxUnits) ∧
    ∀ {C F L : Type} (engine : ShapingEngine C F L) (context : C) (g : Glyph F L)
      (s : ShapedCluster F L), engine.shape context g.content.text = .ok s →
        ∃ later, (g.populate engine context).value = .ok later ∧ later.MeasuredBy s := by
  refine ⟨Fixed.roundsToPixels, Fixed.toPixels_iff, Fixed.toPixelsCeil_iff, ?_⟩
  intro C F L engine context g s shaped
  exact Glyph.populate_measuredBy shaped

/-- An engine by which every text is a run of the same width on the same baseline. -/
def oneRun (width baseline : Fixed) : ShapingEngine Unit Unit Unit where
  createContext _ := pure (.ok ())
  shape _ _ := .ok ⟨⟨0, 0, width, 0⟩, baseline, some [⟨(), ⟨[]⟩⟩], ()⟩

/-- A letter that is half a pixel wide has a width, and a baseline above its top is at the top. -/
theorem measures_rounded_of_halfPixel :
    ∃ s, (oneRun 512 (-1)).shape () (CellBuffer.ofText "a").text = .ok s ∧
      ∃ later, (Glyph.populate (oneRun 512 (-1)) () ⟨CellBuffer.ofText "a", 0, .empty⟩).value
          = .ok later ∧
        0 < later.width ∧ later.description = .run () ⟨[]⟩ 0 := by
  have hshape : (oneRun 512 (-1)).shape () (CellBuffer.ofText "a").text = .ok _ := rfl
  obtain ⟨later, hlater, hmeasured⟩ :=
    measures_rounded.2.2.2 (oneRun 512 (-1)) () ⟨CellBuffer.ofText "a", 0, .empty⟩ _ hshape
  obtain ⟨baseline, hdescription, hcovered⟩ := hmeasured.run _ rfl
  have hzero : baseline = 0 := (hcovered (by decide)).eq_zero (by decide)
  rw [hzero] at hdescription
  exact ⟨_, hshape, later, hlater, hmeasured.width_pos_iff.mpr (by decide), hdescription⟩

end GlyphGrid
