import GlyphGrid.Proofs.Units.Patterns
import GlyphGrid.Proofs.Units.WholePixels

/-!
# From pixels to distances

`Fixed.fromPixels` multiplies a single-precision number of pixels by 1024, rounds and clamps.  Two
of the three could lose something more than the rounding that is wanted, and this file shows that
they do not.  The product is again a number of the format, as only its power of two is another, so
that it is exact unless it is infinite (`scaleUp_finite`).  And an infinite product is so great that
clamping it gives what clamping the exact one gives (`fromPixels_finite`).

What is left is exact arithmetic, in which the order, the sign and whole pixels are looked at
(`ConvertsExactly`).
-/

namespace GlyphGrid

/-- A floating-point number is at most another. -/
inductive Binary.Le : Binary → Binary → Prop
  | least {b : Binary} (number : b ≠ .nan) : Le (.infinite true) b
  | greatest {b : Binary} (number : b ≠ .nan) : Le b (.infinite false)
  | finite {p q : ℚ} (le : p ≤ q) : Le (.finite p) (.finite q)

namespace Fixed

/-! ## What is claimed of a conversion -/

/-- The units of a number of pixels do not have 32 bits. -/
inductive IsClamped : Binary → Prop
  | infinite (isNegative : Bool) : IsClamped (.infinite isNegative)
  | finite {q : ℚ} {n : Int} (rounds : RoundsHalfAway (q * 1024) n)
      (beyond : n < -2 ^ 31 ∨ 2 ^ 31 - 1 < n) : IsClamped (.finite q)

/-- Each pattern is converted to a distance by way of a product, and nothing is lost but what
rounding and clamping the exact units loses. -/
structure ConvertsExactly (product : UInt32 → Binary) (convert : UInt32 → Fixed) : Prop where
  product_finite : ∀ bits q, readSingle bits = .finite q → |q * 1024| < 2 ^ 128 →
    product bits = .finite (q * 1024)
  product_overflow : ∀ bits q, readSingle bits = .finite q → 2 ^ 128 ≤ |q * 1024| →
    product bits = .infinite (q < 0)
  product_special : ∀ bits, (∀ q, readSingle bits ≠ .finite q) → product bits = readSingle bits
  nan : ∀ bits, readSingle bits = .nan → convert bits = 0
  infinite : ∀ bits isNegative, readSingle bits = .infinite isNegative →
    (convert bits).toInt = if isNegative then -2 ^ 31 else 2 ^ 31 - 1
  finite : ∀ bits q, readSingle bits = .finite q → ∃ n, RoundsHalfAway (q * 1024) n ∧
    (convert bits).toInt = max (-2 ^ 31) (min (2 ^ 31 - 1) n)
  mono : ∀ a b, (readSingle a).Le (readSingle b) → (convert a).toInt ≤ (convert b).toInt
  odd : ∀ bits, ¬ IsClamped (readSingle bits) → ¬ IsClamped (readSingle (flipSign bits)) →
    (convert (flipSign bits)).toInt = -(convert bits).toInt
  exists_whole : ∀ p : Int, |p| ≤ 2097150 → ∃ bits, readSingle bits = .finite p
  whole : ∀ bits (p : Int), |p| ≤ 2097150 → readSingle bits = .finite p →
    (toPixels (convert bits)).toInt = p ∧ (toPixelsCeil (convert bits)).toInt = p
  /-- What is added before the shift leaves 32 bits enough. -/
  whole_room : ∀ bits (p : Int), |p| ≤ 2097150 → readSingle bits = .finite p →
    -2 ^ 31 ≤ (convert bits).toInt ∧ (convert bits).toInt + 1024 ≤ 2 ^ 31 - 1

/-! ## Clamping -/

lemma toInt_clamp (n : Int) : (clamp n).toInt = max minUnits (min maxUnits n) :=
  toInt_ofInt (le_max_left _ _) (max_le (by decide) (min_le_left _ _))

lemma clamp_mono {m n : Int} (h : m ≤ n) : (clamp m).toInt ≤ (clamp n).toInt := by
  rw [toInt_clamp, toInt_clamp]
  exact max_le_max_left _ (min_le_min_left _ h)

lemma clamp_of_mem {n : Int} (ge : minUnits ≤ n) (le : n ≤ maxUnits) : (clamp n).toInt = n := by
  rw [toInt_clamp, min_eq_right le, max_eq_right ge]

lemma clamp_of_ge {n : Int} (ge : maxUnits ≤ n) : clamp n = clamp maxUnits := by
  rw [clamp, clamp, min_eq_left ge, min_self]

lemma clamp_of_le {n : Int} (le : n ≤ minUnits) : clamp n = clamp minUnits := by
  rw [clamp, clamp, min_eq_right (le.trans (by decide)), max_eq_left le,
    min_eq_right (by decide), max_self]

/-! ## The product -/

/-- Multiplying by 1024 changes the power of two alone, so that the product is rounded only if it is
infinite. -/
lemma scaleUp_finite {q : ℚ} (h : BinaryFormat.single.Has q) : scaleUp (.finite q)
    = if 2 ^ 128 ≤ |q * 1024| then .infinite (q < 0) else .finite (q * 1024) := by
  have hpower : (unitsPerPixel : ℚ) = 2 ^ 10 := by norm_num [unitsPerPixel]
  have hproduct : q * unitsPerPixel = q * 1024 := by rw [hpower]; norm_num
  have hlimit : twoPow BinaryFormat.single.maxExponent = 2 ^ 128 := by
    rw [twoPow_eq_zpow]
    rfl
  have hsign : q * 1024 < 0 ↔ q < 0 := by constructor <;> intro _ <;> linarith
  have hround := (h.mul_two_pow 10).round_eq
  rw [← hpower, hproduct, hlimit] at hround
  rw [scaleUp, hproduct, hround]
  simp only [hsign]

/-! ## The conversion -/

/-- The distance is the clamped rounding of the exact units. -/
lemma fromPixels_finite {q : ℚ} (h : BinaryFormat.single.Has q) :
    fromPixels (.finite q) = clamp (roundHalfAway (q * 1024)) := by
  rw [fromPixels, scaleUp_finite h]
  split
  · next hlarge =>
    -- Clamping ends far below the least infinite product.
    have hword : ((2 ^ 31 : Int) : ℚ) ≤ 2 ^ 128 := by norm_num
    by_cases hneg : q < 0
    · have hunits : q * 1024 ≤ ((-2 ^ 31 : Int) : ℚ) := by
        rw [abs_of_neg (by linarith)] at hlarge
        rw [Int.cast_neg]
        linarith
      have hle := roundHalfAway_mono hunits
      rw [roundHalfAway_intCast] at hle
      rw [clamp_of_le hle, ofBinary, decide_eq_true hneg, if_pos rfl]
    · have hunits : ((2 ^ 31 : Int) : ℚ) ≤ q * 1024 := by
        rw [abs_of_nonneg (by linarith)] at hlarge
        exact hword.trans hlarge
      have hge := roundHalfAway_mono hunits
      rw [roundHalfAway_intCast] at hge
      rw [clamp_of_ge (le_trans (by decide) hge), ofBinary, decide_eq_false hneg]
      rfl
  · rfl

/-- Greater numbers of pixels have greater distances. -/
lemma fromPixels_mono {a b : UInt32} (h : (readSingle a).Le (readSingle b)) :
    (fromPixels (readSingle a)).toInt ≤ (fromPixels (readSingle b)).toInt := by
  generalize hp : readSingle a = p at h ⊢
  generalize hq : readSingle b = q at h ⊢
  cases h with
  | least => exact minUnits_le _
  | greatest => exact le_maxUnits _
  | finite le =>
    rw [fromPixels_finite (has_of_readSingle hp), fromPixels_finite (has_of_readSingle hq)]
    exact clamp_mono (roundHalfAway_mono (by linarith))

/-- What is not clamped is rounded alone. -/
lemma fromPixels_of_not_isClamped {q : ℚ} (has : BinaryFormat.single.Has q)
    (h : ¬ IsClamped (.finite q)) :
    (fromPixels (.finite q)).toInt = roundHalfAway (q * 1024) := by
  have hwithin : ¬ (roundHalfAway (q * 1024) < minUnits ∨ maxUnits < roundHalfAway (q * 1024)) :=
    fun hbeyond => h (.finite (roundsHalfAway_roundHalfAway _) hbeyond)
  rw [not_or, not_lt, not_lt] at hwithin
  rw [fromPixels_finite has, clamp_of_mem hwithin.1 hwithin.2]

/-- The other sign makes the other distance where neither is clamped. -/
lemma fromPixels_flipSign {bits : UInt32} (h : ¬ IsClamped (readSingle bits))
    (hflip : ¬ IsClamped (readSingle (flipSign bits))) :
    (fromPixels (readSingle (flipSign bits))).toInt = -(fromPixels (readSingle bits)).toInt := by
  rw [readSingle_flipSign] at hflip ⊢
  cases hread : readSingle bits with
  | nan => rfl
  | infinite isNegative => exact absurd (hread ▸ .infinite isNegative) h
  | finite q =>
    rw [hread] at h hflip
    have has := has_of_readSingle hread
    rw [Binary.neg] at hflip ⊢
    rw [fromPixels_of_not_isClamped has.neg hflip, fromPixels_of_not_isClamped has h, neg_mul,
      roundHalfAway_neg]

/-- Whole pixels have 1024 units each. -/
lemma fromPixels_intCast {p : Int} (h : |p| ≤ 2097150) :
    (fromPixels (.finite p)).toInt = p * 1024 := by
  obtain ⟨hlower, hupper⟩ := abs_le.mp h
  have has : BinaryFormat.single.Has p := .of_int (lt_of_le_of_lt h (by decide)) (by decide)
  have hunits : (p : ℚ) * 1024 = (p * 1024 : Int) := by push_cast; rfl
  rw [fromPixels_finite has, hunits, roundHalfAway_intCast]
  exact clamp_of_mem (by rw [minUnits]; omega) (by rw [maxUnits]; omega)

/-- **The conversion of pixels is exact.**  For every pattern of 32 bits the distance is the exact
number of units, rounded with its halves going away from zero and clamped to 32 bits. -/
theorem fromPixels_convertsExactly :
    ConvertsExactly (fun bits => scaleUp (BinaryFormat.single.ofBits bits.toNat))
      (fun bits => fromPixels (BinaryFormat.single.ofBits bits.toNat)) := by
  simp only [BinaryFormat.single_ofBits]
  constructor
  case product_finite =>
    intro bits q hread hlt
    rw [hread, scaleUp_finite (has_of_readSingle hread), if_neg (not_le.mpr hlt)]
  case product_overflow =>
    intro bits q hread hle
    rw [hread, scaleUp_finite (has_of_readSingle hread), if_pos hle]
  case product_special =>
    intro bits hread
    cases hvalue : readSingle bits with
    | nan => rfl
    | infinite isNegative => rfl
    | finite q => exact absurd hvalue (hread q)
  case nan =>
    intro bits hread
    rw [hread]
    rfl
  case infinite =>
    intro bits isNegative hread
    rw [hread]
    cases isNegative <;> rfl
  case finite =>
    intro bits q hread
    refine ⟨_, roundsHalfAway_roundHalfAway (q * 1024), ?_⟩
    rw [hread, fromPixels_finite (has_of_readSingle hread), toInt_clamp]
    rfl
  case mono =>
    intro a b hle
    exact fromPixels_mono hle
  case odd =>
    intro bits h hflip
    exact fromPixels_flipSign h hflip
  case exists_whole =>
    intro p hp
    exact exists_readSingle_eq_int (lt_of_le_of_lt hp (by decide))
  case whole =>
    intro bits p hp hread
    obtain ⟨hlower, hupper⟩ := abs_le.mp hp
    have hunits := fromPixels_intCast hp
    rw [hread, toPixels_of_fits (by rw [hunits, maxUnits]; omega),
      toPixelsCeil_of_fits (by rw [hunits, maxUnits]; omega), hunits, nearestPixel, coveringPixel]
    constructor <;> omega
  case whole_room =>
    intro bits p hp hread
    obtain ⟨hlower, hupper⟩ := abs_le.mp hp
    rw [hread, fromPixels_intCast hp]
    constructor <;> omega

/-- Half a unit below zero is one unit below zero, and the least number above zero is
nothing. -/
example : fromPixels (BinaryFormat.single.ofBits 0xBA000000) = -1 ∧
    fromPixels (BinaryFormat.single.ofBits 1) = 0 := by
  decide +kernel

end Fixed
end GlyphGrid
