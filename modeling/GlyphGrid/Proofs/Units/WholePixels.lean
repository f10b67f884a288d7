import GlyphGrid.Proofs.Units.Rounding

/-!
# Whole pixels

Both ways to round a distance are adjoint to the distance of whole pixels: `Fixed.nearestPixel` is
the most pixels that the distance has to within half a pixel (`le_nearestPixel_iff`), and
`Fixed.coveringPixel` the fewest that cover it (`coveringPixel_le_iff`).  All else is read off these
two, without a look at sums and quotients: which integer comes out, that the order is kept, and that
whole pixels are passed through (`roundsToPixels`).

A distance is a word of 32 bits, and a sum that is too great for a word wraps around.  Up to there
words are rounded as exact distances are, and no further (`toPixels_iff`, `toPixelsCeil_iff`).
-/

namespace GlyphGrid
namespace Fixed

variable {u v n : Int}

/-! ## What is said of rounding -/

/-- One way to round goes to the nearest pixel, a half going up, and the other goes upwards. -/
structure RoundsToPixels (nearest upwards : Int → Int) : Prop where
  nearest_iff : ∀ u p, nearest u = p ↔ 1024 * p - 512 ≤ u ∧ u < 1024 * p + 512
  upwards_iff : ∀ u q, upwards u = q ↔ 1024 * (q - 1) < u ∧ u ≤ 1024 * q
  nearest_mono : ∀ u v, u ≤ v → nearest u ≤ nearest v
  upwards_mono : ∀ u v, u ≤ v → upwards u ≤ upwards v
  nearest_add : ∀ u k, nearest (u + 1024 * k) = nearest u + k
  upwards_add : ∀ u k, upwards (u + 1024 * k) = upwards u + k
  nearest_le_upwards : ∀ u, nearest u ≤ upwards u
  upwards_le_nearest_add_one : ∀ u, upwards u ≤ nearest u + 1

/-! ## Against whole pixels -/

lemma le_nearestPixel_iff : n ≤ nearestPixel u ↔ 1024 * n - 512 ≤ u := by
  rw [nearestPixel, Int.le_ediv_iff_mul_le (by decide)]
  omega

lemma coveringPixel_le_iff : coveringPixel u ≤ n ↔ u ≤ 1024 * n := by
  rw [coveringPixel, ← Int.lt_add_one_iff, Int.ediv_lt_iff_lt_mul (by decide)]
  omega

lemma nearestPixel_sub_half_le (u : Int) : 1024 * nearestPixel u - 512 ≤ u :=
  le_nearestPixel_iff.mp (Int.le_refl _)

lemma le_coveringPixel (u : Int) : u ≤ 1024 * coveringPixel u :=
  coveringPixel_le_iff.mp (Int.le_refl _)

lemma nearestPixel_eq_iff : nearestPixel u = n ↔ 1024 * n - 512 ≤ u ∧ u < 1024 * n + 512 := by
  have hle : n ≤ nearestPixel u ↔ _ := le_nearestPixel_iff
  have hlt : n + 1 ≤ nearestPixel u ↔ _ := le_nearestPixel_iff
  omega

lemma coveringPixel_eq_iff : coveringPixel u = n ↔ 1024 * (n - 1) < u ∧ u ≤ 1024 * n := by
  have hle : coveringPixel u ≤ n ↔ _ := coveringPixel_le_iff
  have hlt : coveringPixel u ≤ n - 1 ↔ _ := coveringPixel_le_iff
  omega

lemma nearestPixel_mono (h : u ≤ v) : nearestPixel u ≤ nearestPixel v :=
  le_nearestPixel_iff.mpr ((nearestPixel_sub_half_le u).trans h)

lemma coveringPixel_mono (h : u ≤ v) : coveringPixel u ≤ coveringPixel v :=
  coveringPixel_le_iff.mpr (h.trans (le_coveringPixel v))

lemma nearestPixel_add_whole (u k : Int) : nearestPixel (u + 1024 * k) = nearestPixel u + k := by
  refine eq_of_forall_le_iff fun n => ?_
  rw [← sub_le_iff_le_add, le_nearestPixel_iff, le_nearestPixel_iff]
  omega

lemma coveringPixel_add_whole (u k : Int) :
    coveringPixel (u + 1024 * k) = coveringPixel u + k := by
  refine eq_of_forall_ge_iff fun n => ?_
  rw [← le_sub_iff_add_le, coveringPixel_le_iff, coveringPixel_le_iff]
  omega

lemma nearestPixel_le_coveringPixel (u : Int) : nearestPixel u ≤ coveringPixel u := by
  have hnearest := nearestPixel_sub_half_le u
  have hupwards := le_coveringPixel u
  omega

lemma coveringPixel_le_nearestPixel_add_one (u : Int) : coveringPixel u ≤ nearestPixel u + 1 := by
  have hlt : u < 1024 * nearestPixel u + 512 := (nearestPixel_eq_iff.mp rfl).2
  exact coveringPixel_le_iff.mpr (by omega)

/-! ## Both ways together -/

lemma roundsToPixels : RoundsToPixels nearestPixel coveringPixel where
  nearest_iff _ _ := nearestPixel_eq_iff
  upwards_iff _ _ := coveringPixel_eq_iff
  nearest_mono _ _ := nearestPixel_mono
  upwards_mono _ _ := coveringPixel_mono
  nearest_add := nearestPixel_add_whole
  upwards_add := coveringPixel_add_whole
  nearest_le_upwards := nearestPixel_le_coveringPixel
  upwards_le_nearest_add_one := coveringPixel_le_nearestPixel_add_one

/-- Half a pixel below zero goes up, and a unit more goes down. -/
example : nearestPixel (-512) = 0 ∧ nearestPixel (-513) = -1 ∧ coveringPixel (-1023) = 0 := by
  decide

/-! ## Distances that are covered -/

/-- A distance is covered by a number of pixels, and if it is not below zero, by no pixel too
many. -/
structure CoveredBy (u : Int) (count : Nat) : Prop where
  pixels_le : inPixels u ≤ count
  lt_pixels_add_one : 0 ≤ u → (count : ℚ) < inPixels u + 1
  eq_zero : u ≤ 0 → count = 0

lemma coveredBy_coveringPixel (u : Int) : CoveredBy u (coveringPixel u).toNat := by
  constructor
  case pixels_le =>
    calc inPixels u
      _ ≤ (coveringPixel u : ℚ) := coveringPixel_eq_ceil u ▸ Rat.le_ceil
      _ ≤ ((coveringPixel u).toNat : Int) := Int.cast_le.mpr (Int.self_le_toNat _)
      _ = (coveringPixel u).toNat := Int.cast_natCast _
  case lt_pixels_add_one =>
    intro hu
    have hcovers := le_coveringPixel u
    calc ((coveringPixel u).toNat : ℚ)
      _ = ((coveringPixel u).toNat : Int) := (Int.cast_natCast _).symm
      _ = (coveringPixel u : ℚ) := by rw [Int.toNat_of_nonneg (by omega)]
      _ < inPixels u + 1 := coveringPixel_eq_ceil u ▸ Rat.ceil_lt
  case eq_zero =>
    intro hu
    exact Int.toNat_of_nonpos (coveringPixel_le_iff.mpr (by omega))

/-! ## Words of 32 bits -/

lemma toPixels_iff (u : Fixed) :
    (toPixels u).toInt = nearestPixel u.toInt ↔ u.toInt + 512 ≤ maxUnits := by
  refine ⟨fun heq => ?_, toPixels_of_fits⟩
  by_contra hwraps
  -- What wraps around is far below zero, and what it should have been is above.
  have hnonneg : 0 ≤ nearestPixel u.toInt :=
    le_nearestPixel_iff.mpr (by rw [maxUnits] at hwraps; omega)
  rw [← heq, toPixels_of_wraps (Int.not_le.mp hwraps)] at hnonneg
  exact absurd hnonneg (by decide)

lemma toPixelsCeil_iff (u : Fixed) :
    (toPixelsCeil u).toInt = coveringPixel u.toInt ↔ u.toInt + 1023 ≤ maxUnits := by
  refine ⟨fun heq => ?_, toPixelsCeil_of_fits⟩
  by_contra hwraps
  have hcovers := le_coveringPixel u.toInt
  rw [← heq, toPixelsCeil_of_wraps (Int.not_le.mp hwraps)] at hcovers
  rw [maxUnits] at hwraps
  omega

lemma IsBaseline.coveredBy {baseline : Nat} (h : IsBaseline u baseline)
    (fits : u + 1023 ≤ maxUnits) : CoveredBy u baseline := by
  have heq : baseline = (coveringPixel u).toNat := by
    have hmax := h.rounded fits
    rw [← coveringPixel_eq_ceil] at hmax
    omega
  exact heq ▸ coveredBy_coveringPixel u

/-- A width is above zero from half a pixel on, but for the last half pixel, which wraps around. -/
lemma IsWidth.pos_iff {width : Nat} (h : IsWidth u width) :
    0 < width ↔ 512 ≤ u ∧ u + 512 ≤ maxUnits := by
  constructor
  · intro hpos
    by_cases hfits : u + 512 ≤ maxUnits
    · have heq := h.rounded hfits
      omega
    · have hzero := h.wrapped (Int.not_le.mp hfits)
      omega
  · rintro ⟨hge, hfits⟩
    have heq := h.rounded hfits
    omega

end Fixed
end GlyphGrid
