import Mathlib.Data.Nat.Bitwise
import GlyphGrid.Proofs.Units.Exactness

/-!
# Patterns of 32 bits

`readSingle` reads 32 bits as a single-precision number by the formulas of IEEE 754: a sign, a power
of two, and a fraction with a leading digit that depends on the exponent.  `BinaryFormat.ofBits`
keeps the digits of a number and its power of two together instead, and reads the same
(`BinaryFormat.single_ofBits`).  Whatever is finite is a number that the format has
(`has_of_readSingle`), whole numbers of few digits have a pattern (`exists_readSingle_eq_int`), and
the first bit changes the sign and nothing else (`readSingle_flipSign`).
-/

namespace GlyphGrid

/-- The number with its sign changed. -/
def Binary.neg : Binary → Binary
  | .nan => .nan
  | .infinite isNegative => .infinite !isNegative
  | .finite q => .finite (-q)

/-- The single-precision number with the given sign, exponent and fraction. -/
def singleOfFields (isNegative : Bool) (exponent fraction : Nat) : Binary :=
  if exponent = 255 then
    if fraction = 0 then .infinite isNegative else .nan
  else
    let size : ℚ :=
      if exponent = 0 then 2 ^ (-126 : Int) * (fraction / 2 ^ 23)
      else 2 ^ ((exponent : Int) - 127) * (1 + fraction / 2 ^ 23)
    .finite (if isNegative then -size else size)

/-- The single-precision number that 32 bits stand for: the sign, eight bits of exponent, and 23 of
fraction. -/
def readSingle (bits : UInt32) : Binary :=
  singleOfFields (bits.toNat.testBit 31) (bits.toNat / 2 ^ 23 % 2 ^ 8) (bits.toNat % 2 ^ 23)

/-- The pattern with its first bit changed. -/
def flipSign (bits : UInt32) : UInt32 := bits ^^^ 0x80000000

/-! ## Two ways to read a pattern -/

/-- A number below the least normal one, as digits and a power of two. -/
lemma subnormal_eq (fraction : Nat) :
    (2 : ℚ) ^ (-126 : Int) * (fraction / 2 ^ 23) = fraction * twoPow (-149) := by
  rw [twoPow_eq_zpow]
  norm_num
  ring

/-- A normal number, as digits and a power of two. -/
lemma normal_eq (exponent fraction : Nat) :
    (2 : ℚ) ^ ((exponent : Int) - 127) * (1 + fraction / 2 ^ 23)
      = (2 ^ 23 + fraction : Nat) * twoPow (-149 + exponent - 1) := by
  have hexponent : (exponent : Int) - 127 = (-149 + exponent - 1) + 23 := by omega
  rw [twoPow_eq_zpow, hexponent, zpow_add₀ two_ne_zero]
  push_cast
  norm_num
  ring

/-- The digits and the power of two of a pattern make the number of its fields. -/
theorem BinaryFormat.single_ofBits (bits : UInt32) :
    single.ofBits bits.toNat = readSingle bits := by
  have hfraction : Nat.pow 2 (single.precision - 1) = 2 ^ 23 := rfl
  have hlimit : 2 * single.maxExponent.toNat = 2 ^ 8 := rfl
  have hleast : single.minExponent = -149 := rfl
  have hsign : bits.toNat / 2 ^ 23 / 2 ^ 8 = bits.toNat / 2 ^ 31 := Nat.div_div_eq_div_mul _ _ _
  have hspecial : bits.toNat / 2 ^ 23 % 2 ^ 8 + 1 = 2 ^ 8 ↔ bits.toNat / 2 ^ 23 % 2 ^ 8 = 255 :=
    Nat.succ_inj
  rw [readSingle, singleOfFields, Nat.testBit_eq_decide_div_mod_eq]
  simp only [ofBits, hfraction, hlimit, hleast, hsign, hspecial, subnormal_eq, normal_eq,
    decide_eq_true_eq]

/-! ## Numbers with a pattern -/

lemma has_of_singleOfFields {isNegative : Bool} {exponent fraction : Nat} {q : ℚ}
    (lt : fraction < 2 ^ 23) (h : singleOfFields isNegative exponent fraction = .finite q) :
    BinaryFormat.single.Has q := by
  have hsize : ∀ size : ℚ, BinaryFormat.single.Has size →
      BinaryFormat.single.Has (if isNegative then -size else size) := by
    intro size hsize
    split
    · exact hsize.neg
    · exact hsize
  rw [singleOfFields] at h
  split at h
  · split at h <;> cases h
  · cases h
    apply hsize
    split
    · rw [subnormal_eq]
      refine ⟨fraction, -149, ?_, Int.le_refl _, by rw [Int.cast_natCast]⟩
      rw [Nat.abs_cast]
      exact_mod_cast lt.trans (by decide)
    · rw [normal_eq]
      refine ⟨(2 ^ 23 + fraction : Nat), -149 + exponent - 1, ?_, ?_, by rw [Int.cast_natCast]⟩
      · rw [Nat.abs_cast]
        exact_mod_cast (by omega : 2 ^ 23 + fraction < 2 ^ 24)
      · change -149 ≤ _
        omega

/-- The finite number of a pattern is one that the format has. -/
lemma has_of_readSingle {bits : UInt32} {q : ℚ} (h : readSingle bits = .finite q) :
    BinaryFormat.single.Has q :=
  has_of_singleOfFields (Nat.mod_lt _ (by decide)) h

/-- The pattern with the given fields. -/
def bitsOfFields (isNegative : Bool) (exponent fraction : Nat) : UInt32 :=
  .ofNat (isNegative.toNat * 2 ^ 31 + exponent * 2 ^ 23 + fraction)

lemma readSingle_bitsOfFields {isNegative : Bool} {exponent fraction : Nat}
    (exponent_lt : exponent < 2 ^ 8) (fraction_lt : fraction < 2 ^ 23) :
    readSingle (bitsOfFields isNegative exponent fraction)
      = singleOfFields isNegative exponent fraction := by
  have hsign : isNegative.toNat ≤ 1 := Bool.toNat_le isNegative
  have hbits : (bitsOfFields isNegative exponent fraction).toNat
      = isNegative.toNat * 2 ^ 31 + exponent * 2 ^ 23 + fraction :=
    UInt32.toNat_ofNat_of_lt' (by rw [UInt32.size]; omega)
  have hnegative : (bitsOfFields isNegative exponent fraction).toNat / 2 ^ 31 % 2
      = isNegative.toNat := by omega
  have hexponent : (bitsOfFields isNegative exponent fraction).toNat / 2 ^ 23 % 2 ^ 8
      = exponent := by omega
  have hfraction : (bitsOfFields isNegative exponent fraction).toNat % 2 ^ 23 = fraction := by
    omega
  rw [readSingle, Nat.testBit_eq_decide_div_mod_eq, hnegative, hexponent, hfraction]
  cases isNegative <;> rfl

/-- A number of at most 24 digits has just 24 when its first digit is moved to the front. -/
lemma shift_log2_mem {n : Nat} (pos : n ≠ 0) (lt : n < 2 ^ 24) :
    2 ^ 23 ≤ n * 2 ^ (23 - n.log2) ∧ n * 2 ^ (23 - n.log2) < 2 ^ 24 := by
  have hlog : n.log2 < 24 := (Nat.log2_lt pos).mpr lt
  have hsplit : 2 ^ 23 = 2 ^ n.log2 * 2 ^ (23 - n.log2) := by
    rw [← Nat.pow_add, Nat.add_sub_cancel' (Nat.le_of_lt_succ hlog)]
  constructor
  · rw [hsplit]
    exact Nat.mul_le_mul_right _ (Nat.log2_self_le pos)
  · rw [Nat.pow_succ, hsplit, Nat.mul_right_comm, ← Nat.pow_succ]
    exact Nat.mul_lt_mul_of_pos_right Nat.lt_log2_self (Nat.two_pow_pos _)

/-- A number above zero with at most 24 digits has a normal pattern: the exponent is the place of
its first digit, and the fraction is what is behind that. -/
lemma singleOfFields_log2 {n : Nat} (isNegative : Bool) (pos : n ≠ 0) (lt : n < 2 ^ 24) :
    singleOfFields isNegative (n.log2 + 127) (n * 2 ^ (23 - n.log2) - 2 ^ 23)
      = .finite (if isNegative then -n else n) := by
  have hlog : n.log2 < 24 := (Nat.log2_lt pos).mpr lt
  have hexponent : ((n.log2 + 127 : Nat) - 127 : Int) = n.log2 := by omega
  have hfraction : (1 : ℚ) + (n * 2 ^ (23 - n.log2) - 2 ^ 23 : Nat) / 2 ^ 23
      = n * 2 ^ (23 - n.log2) / 2 ^ 23 := by
    rw [Nat.cast_sub (shift_log2_mem pos lt).1]
    push_cast
    ring
  have hsplit : (2 : ℚ) ^ 23 = 2 ^ n.log2 * 2 ^ (23 - n.log2) := by
    rw [← pow_add, Nat.add_sub_cancel' (Nat.le_of_lt_succ hlog)]
  have hsize : (2 : ℚ) ^ ((n.log2 + 127 : Nat) - 127 : Int)
      * (1 + (n * 2 ^ (23 - n.log2) - 2 ^ 23 : Nat) / 2 ^ 23) = n := by
    rw [hexponent, zpow_natCast, hfraction, hsplit]
    field_simp
  rw [singleOfFields, if_neg (by omega), if_neg (by omega), hsize]

/-- A whole number of at most 24 binary digits has a pattern. -/
lemma exists_readSingle_eq_int {n : Int} (fits : |n| < 2 ^ 24) :
    ∃ bits, readSingle bits = .finite n := by
  by_cases hzero : n = 0
  · exact ⟨0, by simp [hzero, readSingle, singleOfFields]⟩
  · have hpos : n.natAbs ≠ 0 := Int.natAbs_ne_zero.mpr hzero
    have hlt : n.natAbs < 2 ^ 24 := by
      rw [Int.abs_eq_natAbs] at fits
      exact_mod_cast fits
    have hlog : n.natAbs.log2 < 24 := (Nat.log2_lt hpos).mpr hlt
    have hdigits := (shift_log2_mem hpos hlt).2
    refine ⟨bitsOfFields (n < 0) (n.natAbs.log2 + 127)
      (n.natAbs * 2 ^ (23 - n.natAbs.log2) - 2 ^ 23), ?_⟩
    have hvalue : (if decide (n < 0) then -(n.natAbs : ℚ) else n.natAbs) = n := by
      simp only [Nat.cast_natAbs, decide_eq_true_eq]
      split
      · next hneg => rw [abs_of_neg hneg, Int.cast_neg, neg_neg]
      · next hnonneg => rw [abs_of_nonneg (Int.not_lt.mp hnonneg)]
    rw [readSingle_bitsOfFields (by omega) (by omega), singleOfFields_log2 _ hpos hlt, hvalue]

/-! ## The sign -/

lemma singleOfFields_not (isNegative : Bool) (exponent fraction : Nat) :
    singleOfFields (!isNegative) exponent fraction
      = (singleOfFields isNegative exponent fraction).neg := by
  unfold singleOfFields
  split
  · split <;> rfl
  · cases isNegative
    · rfl
    · exact congrArg Binary.finite (neg_neg _).symm

/-- The first bit changes the sign and nothing else. -/
lemma readSingle_flipSign (bits : UInt32) : readSingle (flipSign bits) = (readSingle bits).neg := by
  have hbits : (flipSign bits).toNat = bits.toNat ^^^ 2 ^ 31 := UInt32.toNat_xor _ _
  have hsign : (flipSign bits).toNat.testBit 31 = !bits.toNat.testBit 31 := by
    rw [hbits, Nat.testBit_xor, Nat.testBit_two_pow_self, Bool.xor_true]
  have hexponent : (flipSign bits).toNat / 2 ^ 23 % 2 ^ 8 = bits.toNat / 2 ^ 23 % 2 ^ 8 := by
    rw [hbits, Nat.xor_div_two_pow, Nat.xor_mod_two_pow]
    exact Nat.xor_zero _
  have hfraction : (flipSign bits).toNat % 2 ^ 23 = bits.toNat % 2 ^ 23 := by
    rw [hbits, Nat.xor_mod_two_pow]
    exact Nat.xor_zero _
  rw [readSingle, hsign, hexponent, hfraction, singleOfFields_not]
  rfl

end GlyphGrid
