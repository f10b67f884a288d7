import Mathlib.Algebra.Order.Field.Power
import GlyphGrid.Proofs.Units.Rounding

/-!
# Numbers that a format has

`BinaryFormat.nearest` rounds, but not a number that the format has: an integer that fits into its
precision, times a power of two that is no less than its least one (`BinaryFormat.nearest_eq_self`).
The spacing around such a number is a power of two that divides it, so that rounding meets an
integer.

`BinaryFormat.Has` collects these numbers.  They stay among themselves when the sign is changed and
when they are doubled, and `BinaryFormat.round` keeps them unless they are too great.
-/

namespace GlyphGrid

/-! ## Powers of two -/

lemma twoPow_eq_zpow (e : Int) : twoPow e = (2 : ℚ) ^ e := by
  rw [twoPow]
  split
  · next h =>
    rw [Nat.pow_eq, Nat.cast_pow, Nat.cast_ofNat, ← zpow_natCast, Int.toNat_of_nonneg h]
  · next h =>
    rw [Nat.pow_eq, Nat.cast_pow, Nat.cast_ofNat, ← zpow_natCast,
      Int.toNat_of_nonneg (by omega), zpow_neg, one_div, inv_inv]

lemma ratAbs_eq_abs (q : ℚ) : q.abs = |q| := by
  rw [Rat.abs]
  split
  · next h => exact (abs_of_nonneg h).symm
  · next h => exact (abs_of_nonpos (le_of_not_ge h)).symm

lemma twoPow_log2Floor_le {q : ℚ} (h : q ≠ 0) : twoPow (log2Floor q) ≤ |q| := by
  rw [log2Floor]
  split
  · next hle => exact ratAbs_eq_abs q ▸ hle
  · -- The numerator has at least its leading bit, and the denominator is less than twice its own.
    have hnum : (2 : ℚ) ^ (q.num.natAbs.log2 : Int) ≤ q.num.natAbs := by
      rw [zpow_natCast]
      exact_mod_cast Nat.log2_self_le (Int.natAbs_ne_zero.mpr (Rat.num_ne_zero.mpr h))
    have hden : (q.den : ℚ) ≤ (2 : ℚ) ^ (q.den.log2 + 1 : Int) := by
      rw [← Nat.cast_succ, zpow_natCast]
      exact_mod_cast (@Nat.lt_log2_self q.den).le
    have habs : |q| = q.num.natAbs / q.den := by
      rw [Nat.cast_natAbs, Int.cast_abs, ← Nat.abs_cast q.den, ← abs_div, Rat.num_div_den]
    have hexponent : (q.num.natAbs.log2 : Int) - q.den.log2 - 1
        = q.num.natAbs.log2 - (q.den.log2 + 1) := by omega
    rw [twoPow_eq_zpow, habs, hexponent, zpow_sub₀ two_ne_zero]
    exact div_le_div₀ (Nat.cast_nonneg _) hnum (Nat.cast_pos.mpr q.den_pos) hden

lemma log2Floor_lt {q : ℚ} {e : Int} (h : q ≠ 0) (lt : |q| < twoPow e) : log2Floor q < e := by
  have hlt := lt_of_le_of_lt (twoPow_log2Floor_le h) lt
  rw [twoPow_eq_zpow, twoPow_eq_zpow] at hlt
  exact (zpow_lt_zpow_iff_right₀ one_lt_two).mp hlt

lemma abs_mul_twoPow_lt {m e : Int} {bits : Nat} (h : |m| < 2 ^ bits) :
    |m * twoPow e| < twoPow (bits + e) := by
  have hpos : (0 : ℚ) < 2 ^ e := zpow_pos two_pos e
  rw [twoPow_eq_zpow, twoPow_eq_zpow, abs_mul, abs_of_pos hpos, zpow_add₀ two_ne_zero,
    zpow_natCast]
  exact mul_lt_mul_of_pos_right (by exact_mod_cast h) hpos

/-! ## Rounding -/

lemma roundHalfEven_intCast (n : Int) : roundHalfEven n = n := by
  rw [roundHalfEven, Rat.floor_intCast, sub_self]
  exact if_pos (by norm_num)

/-- A number that a format has is nearest to itself. -/
lemma BinaryFormat.nearest_eq_self (f : BinaryFormat) {m e : Int}
    (fits : |m| < 2 ^ f.precision) (le : f.minExponent ≤ e) :
    f.nearest (m * twoPow e) = m * twoPow e := by
  rw [nearest]
  split
  · next hzero => exact hzero.symm
  · next hne =>
    have hlog := log2Floor_lt hne (abs_mul_twoPow_lt fits)
    obtain ⟨n, hn⟩ := Int.le.dest (max_le (by omega) le :
      max (log2Floor (m * twoPow e) - (f.precision - 1 : Nat)) f.minExponent ≤ e)
    rw [spacing]
    generalize max (log2Floor (m * twoPow e) - (f.precision - 1 : Nat)) f.minExponent = s at hn
    have hspacing : twoPow s ≠ 0 := twoPow_eq_zpow s ▸ zpow_ne_zero s two_ne_zero
    have hwhole : m * twoPow e = ((m * 2 ^ n : Int) : ℚ) * twoPow s := by
      rw [twoPow_eq_zpow, twoPow_eq_zpow, ← hn, zpow_add₀ two_ne_zero, zpow_natCast]
      push_cast
      ring
    rw [hwhole, mul_div_cancel_right₀ _ hspacing, roundHalfEven_intCast]

/-! ## The numbers of a format -/

/-- A format has a number, were its exponents not bounded from above. -/
def BinaryFormat.Has (f : BinaryFormat) (q : ℚ) : Prop :=
  ∃ m e : Int, |m| < 2 ^ f.precision ∧ f.minExponent ≤ e ∧ q = m * twoPow e

namespace BinaryFormat.Has

variable {f : BinaryFormat} {q : ℚ}

lemma neg (h : f.Has q) : f.Has (-q) := by
  obtain ⟨m, e, fits, le, rfl⟩ := h
  refine ⟨-m, e, ?_, le, ?_⟩
  · rw [abs_neg]
    exact fits
  · rw [Int.cast_neg, neg_mul]

lemma mul_two_pow (h : f.Has q) (n : Nat) : f.Has (q * 2 ^ n) := by
  obtain ⟨m, e, fits, le, rfl⟩ := h
  refine ⟨m, e + n, fits, by omega, ?_⟩
  rw [twoPow_eq_zpow, twoPow_eq_zpow, zpow_add₀ two_ne_zero, zpow_natCast, mul_assoc]

lemma of_int {n : Int} (fits : |n| < 2 ^ f.precision) (le : f.minExponent ≤ 0) : f.Has n := by
  refine ⟨n, 0, fits, le, ?_⟩
  rw [twoPow_eq_zpow, zpow_zero, mul_one]

lemma nearest_eq (h : f.Has q) : f.nearest q = q := by
  obtain ⟨m, e, fits, le, rfl⟩ := h
  exact f.nearest_eq_self fits le

/-- To round a number of the format can only make it infinite. -/
lemma round_eq (h : f.Has q) : f.round q
    = if twoPow f.maxExponent ≤ |q| then .infinite (q < 0) else .finite q := by
  rw [round, h.nearest_eq, ratAbs_eq_abs]

end BinaryFormat.Has
end GlyphGrid
