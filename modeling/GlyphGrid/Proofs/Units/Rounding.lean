import Mathlib.Data.Rat.Floor
import Mathlib.Tactic.Lemma
import Mathlib.Tactic.Linarith
import GlyphGrid.Units.Fixed

/-!
# Rounding to whole pixels

`Fixed.toPixels` and `Fixed.toPixelsCeil` add to a distance and shift the sum.  This file says
which integers come out.  As long as the sum has 32 bits, the first is `nearestPixel`, which goes to
the nearest pixel, a half going up (`toPixels_of_fits`), and the second is `coveringPixel`, the
ceiling of the exact number of pixels (`toPixelsCeil_of_fits`).  Both hold for distances of either
sign, since the shift rounds towards the lesser integer.  Any greater sum wraps around to the same
two million pixels below zero (`toPixels_of_wraps`, `toPixelsCeil_of_wraps`).

Where a glyph is placed, an exact number of pixels is rounded with its halves going away from zero.
`roundHalfAway` is at most half a pixel off, from which it follows that it keeps the order
(`roundHalfAway_mono`) and that less than a pixel more is at most one pixel more
(`roundHalfAway_le_add_one`).  Without its formula it is the nearest integer, and the greater one in
size where two are as near (`roundsHalfAway_iff`).
-/

namespace GlyphGrid

/-! ## Halves that go away from zero -/

lemma abs_roundHalfAway_sub_le (q : ℚ) : |(roundHalfAway q : ℚ) - q| ≤ 1 / 2 := by
  rw [roundHalfAway, abs_le]
  split
  · have hle := Rat.floor_le (q + 1 / 2)
    have hlt := Rat.lt_floor_add_one (q + 1 / 2)
    push_cast at hlt
    constructor <;> linarith
  · have hle := Rat.floor_le (-q + 1 / 2)
    have hlt := Rat.lt_floor_add_one (-q + 1 / 2)
    push_cast at hlt ⊢
    constructor <;> linarith

lemma roundHalfAway_mono {p q : ℚ} (h : p ≤ q) : roundHalfAway p ≤ roundHalfAway q := by
  by_contra hlt
  have hstep : ((roundHalfAway q + 1 : Int) : ℚ) ≤ roundHalfAway p :=
    Int.cast_le.mpr (Int.not_le.mp hlt)
  push_cast at hstep
  have hp := abs_le.mp (abs_roundHalfAway_sub_le p)
  have hq := abs_le.mp (abs_roundHalfAway_sub_le q)
  -- Both are off by half a pixel, in opposite directions, only if they round the same number.
  have heq : p = q := by linarith
  exact hlt (heq ▸ Int.le_refl _)

lemma roundHalfAway_intCast (n : Int) : roundHalfAway n = n := by
  have hdist := abs_le.mp (abs_roundHalfAway_sub_le n)
  have hlt : ((roundHalfAway n - n : Int) : ℚ) < 1 := by push_cast; linarith
  have hgt : (-1 : ℚ) < ((roundHalfAway n - n : Int) : ℚ) := by push_cast; linarith
  have hlt' : roundHalfAway n - n < 1 := by exact_mod_cast hlt
  have hgt' : -1 < roundHalfAway n - n := by exact_mod_cast hgt
  omega

lemma roundHalfAway_neg (q : ℚ) : roundHalfAway (-q) = -roundHalfAway q := by
  rcases lt_trichotomy q 0 with hneg | rfl | hpos
  · rw [roundHalfAway, roundHalfAway, if_pos (by linarith), if_neg (by linarith), Int.neg_neg]
  · have hzero : roundHalfAway 0 = 0 := roundHalfAway_intCast 0
    rw [neg_zero, hzero, Int.neg_zero]
  · rw [roundHalfAway, roundHalfAway, if_neg (by linarith), if_pos (by linarith), neg_neg]

/-- An integer is nearest to a number, and the greatest in size of those that are. -/
structure RoundsHalfAway (q : ℚ) (n : Int) : Prop where
  nearest : ∀ m : Int, |(n : ℚ) - q| ≤ |(m : ℚ) - q|
  away : ∀ m : Int, |(m : ℚ) - q| = |(n : ℚ) - q| → |m| ≤ |n|

/-- Only one integer is nearest and greatest in size: the other with its size is its negative, which
is as far from no number but zero. -/
lemma RoundsHalfAway.unique {q : ℚ} {m n : Int} (hm : RoundsHalfAway q m)
    (hn : RoundsHalfAway q n) : m = n := by
  have hdist : |(m : ℚ) - q| = |(n : ℚ) - q| := le_antisymm (hm.nearest n) (hn.nearest m)
  have hsize : |m| = |n| := le_antisymm (hn.away m hdist) (hm.away n hdist.symm)
  rcases abs_eq_abs.mp hsize with heq | hneg
  · exact heq
  · rw [hneg, Int.cast_neg] at hdist
    have hzero : n = 0 := by
      rcases abs_eq_abs.mp hdist with hsame | hopposite
      · have hn : (n : ℚ) = 0 := by linarith
        exact_mod_cast hn
      · have hq : q = 0 := by linarith
        have hle := hn.nearest 0
        rw [hq, sub_zero, Int.cast_zero, sub_zero, abs_zero, abs_nonpos_iff] at hle
        exact_mod_cast hle
    rw [hneg, hzero, Int.neg_zero]

lemma RoundsHalfAway.neg {q : ℚ} {n : Int} (h : RoundsHalfAway q n) : RoundsHalfAway (-q) (-n) := by
  have hflip : ∀ m : Int, |(m : ℚ) - -q| = |((-m : Int) : ℚ) - q| := by
    intro m
    rw [← abs_neg, Int.cast_neg, neg_sub', neg_neg]
  constructor
  · intro m
    rw [hflip, hflip, Int.neg_neg]
    exact h.nearest (-m)
  · intro m heq
    rw [hflip, hflip, Int.neg_neg] at heq
    rw [abs_neg, ← abs_neg m]
    exact h.away (-m) heq

/-- Any other integer is half a unit away or more. -/
lemma abs_roundHalfAway_sub_le_abs (q : ℚ) (m : Int) :
    |(roundHalfAway q : ℚ) - q| ≤ |(m : ℚ) - q| := by
  by_cases heq : m = roundHalfAway q
  · rw [heq]
  · have hone : (1 : ℚ) ≤ |(m : ℚ) - roundHalfAway q| := by
      exact_mod_cast Int.one_le_abs (sub_ne_zero.mpr heq)
    have hnear := abs_roundHalfAway_sub_le q
    have htriangle := abs_sub_le (m : ℚ) q (roundHalfAway q)
    rw [abs_sub_comm q] at htriangle
    linarith

lemma roundsHalfAway_roundHalfAway (q : ℚ) : RoundsHalfAway q (roundHalfAway q) := by
  -- The formula for numbers below zero is the one for the others, with both signs changed.
  have hnonneg : ∀ p : ℚ, 0 ≤ p → RoundsHalfAway p (roundHalfAway p) := by
    intro p hp
    refine ⟨abs_roundHalfAway_sub_le_abs p, fun m heq => ?_⟩
    have hlt : p + 1 / 2 < roundHalfAway p + 1 := by
      rw [roundHalfAway, if_pos hp]
      exact_mod_cast Rat.lt_floor_add_one (p + 1 / 2)
    rcases abs_eq_abs.mp heq with hsame | hopposite
    · rw [Int.cast_injective (sub_left_injective hsame)]
    · have hupper : (m : ℚ) < (roundHalfAway p + 1 : Int) := by push_cast; linarith
      have hlower : ((-roundHalfAway p : Int) : ℚ) ≤ m := by push_cast; linarith
      have hupper' : m < roundHalfAway p + 1 := by exact_mod_cast hupper
      have hlower' : -roundHalfAway p ≤ m := by exact_mod_cast hlower
      exact (abs_le.mpr ⟨hlower', Int.lt_add_one_iff.mp hupper'⟩).trans (le_abs_self _)
  rcases le_total 0 q with hq | hq
  · exact hnonneg q hq
  · have hneg := (hnonneg (-q) (neg_nonneg.mpr hq)).neg
    rwa [roundHalfAway_neg, neg_neg, Int.neg_neg] at hneg

/-- The formula and the rule agree. -/
lemma roundsHalfAway_iff {q : ℚ} {n : Int} : RoundsHalfAway q n ↔ roundHalfAway q = n := by
  refine ⟨fun h => (roundsHalfAway_roundHalfAway q).unique h, fun h => ?_⟩
  rw [← h]
  exact roundsHalfAway_roundHalfAway q

/-! ## Exact numbers of units -/

namespace Fixed

/-- The pixel nearest to a number of units, a half going up. -/
def nearestPixel (units : Int) : Int := (units + 512) / 1024

/-- The fewest pixels that cover a number of units. -/
def coveringPixel (units : Int) : Int := (units + 1023) / 1024

/-- Rounding up by adding and dividing is the ceiling of the exact number of pixels. -/
lemma coveringPixel_eq_ceil (units : Int) : coveringPixel units = (inPixels units).ceil := by
  rw [coveringPixel]
  set n : Int := (units + 1023) / 1024 with hn
  have hpos : (0 : ℚ) < ((1024 : Int) : ℚ) := by norm_num
  have hupper : inPixels units ≤ (n : ℚ) := by
    rw [inPixels, unitsPerPixel, div_le_iff₀ hpos]
    exact_mod_cast (by omega : units ≤ n * 1024)
  have hlower : ((n - 1 : Int) : ℚ) < inPixels units := by
    rw [inPixels, unitsPerPixel, lt_div_iff₀ hpos]
    exact_mod_cast (by omega : (n - 1) * 1024 < units)
  apply le_antisymm
  · exact Int.le_of_sub_one_lt (Rat.lt_ceil_iff.mpr hlower)
  · exact Rat.ceil_le_iff.mpr hupper

/-! ## Words of 32 bits -/

lemma minUnits_le (u : Fixed) : minUnits ≤ u.toInt := u.le_toInt

lemma le_maxUnits (u : Fixed) : u.toInt ≤ maxUnits := Int.le_of_lt_add_one u.toInt_lt

/-- A distance within 32 bits is kept as it is. -/
lemma toInt_ofInt {n : Int} (ge : minUnits ≤ n) (le : n ≤ maxUnits) :
    (Int32.ofInt n).toInt = n :=
  Int32.toInt_ofInt_of_le ge (Int.lt_add_one_of_le le)

lemma toInt_shiftRight_ten (w : Int32) : (w >>> 10).toInt = w.toInt / 1024 :=
  BitVec.toInt_sshiftRight.trans (Int.shiftRight_eq_div_pow w.toInt 10)

/-- A sum that leaves 32 bits at the top comes back at the bottom. -/
lemma bmod_of_wraps {sum : Int} (ge : 2 ^ 31 ≤ sum) (lt : sum < 2 ^ 32) :
    sum.bmod (2 ^ 32) = sum - 2 ^ 32 := by
  rw [Int.bmod_def]
  omega

lemma toInt_toPixels (u : Fixed) :
    (toPixels u).toInt = (u.toInt + 512).bmod (2 ^ 32) / 1024 := by
  have hsum : (u + 512).toInt = (u.toInt + 512).bmod (2 ^ 32) := u.toInt_add 512
  rw [toPixels, toInt_shiftRight_ten, hsum]

lemma toInt_toPixelsCeil (u : Fixed) :
    (toPixelsCeil u).toInt = (u.toInt + 1023).bmod (2 ^ 32) / 1024 := by
  -- Where the sum alone wraps around, the difference wraps back.
  have honce : u + 1024 - 1 = u + 1023 := by
    rw [Int32.sub_eq_add_neg, Int32.add_assoc]
    rfl
  have hsum : (u + 1023).toInt = (u.toInt + 1023).bmod (2 ^ 32) := u.toInt_add 1023
  rw [toPixelsCeil, toInt_shiftRight_ten, honce, hsum]

lemma toPixels_of_fits {u : Fixed} (h : u.toInt + 512 ≤ maxUnits) :
    (toPixels u).toInt = nearestPixel u.toInt := by
  have hge := u.le_toInt
  rw [maxUnits] at h
  rw [toInt_toPixels, Int.bmod_eq_of_le (by omega) (by omega), nearestPixel]

lemma toPixelsCeil_of_fits {u : Fixed} (h : u.toInt + 1023 ≤ maxUnits) :
    (toPixelsCeil u).toInt = coveringPixel u.toInt := by
  have hge := u.le_toInt
  rw [maxUnits] at h
  rw [toInt_toPixelsCeil, Int.bmod_eq_of_le (by omega) (by omega), coveringPixel]

lemma toPixels_of_wraps {u : Fixed} (h : maxUnits < u.toInt + 512) :
    (toPixels u).toInt = -2097152 := by
  have hlt := u.toInt_lt
  rw [maxUnits] at h
  rw [toInt_toPixels, bmod_of_wraps (by omega) (by omega)]
  omega

lemma toPixelsCeil_of_wraps {u : Fixed} (h : maxUnits < u.toInt + 1023) :
    (toPixelsCeil u).toInt = -2097152 := by
  have hlt := u.toInt_lt
  rw [maxUnits] at h
  rw [toInt_toPixelsCeil, bmod_of_wraps (by omega) (by omega)]
  omega

/-- One unit too many turns two million pixels into as many below zero. -/
example : (toPixels 2147483135).toInt = 2097151 ∧ (toPixels 2147483136).toInt = -2097152 := by
  decide

/-! ## Measures -/

/-- A width in pixels that is not below zero stands for a distance: its nearest pixel, or nothing
where the distance is so great that the sum wraps around. -/
structure IsWidth (units : Int) (width : Nat) : Prop where
  rounded : units + 512 ≤ maxUnits → (width : Int) = max 0 ((units + 512) / 1024)
  wrapped : maxUnits < units + 512 → width = 0

/-- A baseline in pixels that is not below zero covers a distance, but for a distance that is so
great that the sum wraps around. -/
structure IsBaseline (units : Int) (baseline : Nat) : Prop where
  rounded : units + 1023 ≤ maxUnits → (baseline : Int) = max 0 (inPixels units).ceil
  wrapped : maxUnits < units + 1023 → baseline = 0

lemma isWidth_toPixels (u : Fixed) : IsWidth u.toInt (toPixels u).toInt.toNat where
  rounded h := by
    rw [toPixels_of_fits h, Int.toNat_eq_max, Int.max_comm, nearestPixel]
  wrapped h := by
    rw [toPixels_of_wraps h]
    rfl

lemma isBaseline_toPixelsCeil (u : Fixed) : IsBaseline u.toInt (toPixelsCeil u).toInt.toNat where
  rounded h := by
    rw [toPixelsCeil_of_fits h, Int.toNat_eq_max, Int.max_comm, coveringPixel_eq_ceil]
  wrapped h := by
    rw [toPixelsCeil_of_wraps h]
    rfl

/-- A distance has one width. -/
lemma IsWidth.unique {units : Int} {width width' : Nat} (h : IsWidth units width)
    (h' : IsWidth units width') : width = width' := by
  rcases Int.lt_or_le maxUnits (units + 512) with hwraps | hfits
  · rw [h.wrapped hwraps, h'.wrapped hwraps]
  · exact Int.ofNat.inj ((h.rounded hfits).trans (h'.rounded hfits).symm)

end Fixed
end GlyphGrid
