import Mathlib.Algebra.Order.Ring.Abs
import Mathlib.Data.Rat.Cast.Order
import Mathlib.Tactic.FieldSimp
import Mathlib.Tactic.Linarith
import Mathlib.Tactic.Ring
import GlyphGrid.Proofs.Raster.Blending

/-!
# Where colours are composited source-over

A composite with straight alpha weighs each of two colours by the part of the pixel that it is seen
in: the upper one by its alpha, the lower one by its own alpha where the upper one lets it through
(`Rgba.sourceOver`).  Laying a colour over another one takes the alpha of the two together from this
rule, but for the other channels it weighs the lower colour as if it were opaque (`Rgba.mean`).

How far the two rules lie apart is a product of three factors (`Rgba.mean_sub_sourceOver`), so that
they agree where either colour is opaque, and they differ where both are translucent.  Over a pixel
that is transparent altogether, a colour is mixed with one that nobody sees.
-/

namespace GlyphGrid

/-- Adding half of the divisor before a division rounds to the nearest number. -/
lemma abs_roundedDiv_sub_le (n : ℕ) : |(((n + 127) / 255 : ℕ) : ℚ) - n / 255| ≤ 127 / 255 := by
  have hlow : 255 * ((n + 127) / 255) ≤ n + 127 := Nat.mul_div_le _ _
  have hhigh : n ≤ 255 * ((n + 127) / 255) + 127 := by omega
  generalize (n + 127) / 255 = q at hlow hhigh ⊢
  have hlow' : (255 * q : ℚ) ≤ n + 127 := mod_cast hlow
  have hhigh' : (n : ℚ) ≤ 255 * q + 127 := mod_cast hhigh
  rw [abs_le]
  constructor <;> linarith

namespace Rgba

/-- A channel of a colour as a number. -/
def level (c : Rgba) (ch : ColorChannel) : ℚ := (c.channel ch).toNat

/-- The alpha of a colour as a number. -/
def opacity (c : Rgba) : ℚ := c.alpha.toNat

/-- The weight of two colours together, where an opaque one has the weight `255 * 255`. -/
def totalWeight (above below : Rgba) : ℚ :=
  above.opacity * 255 + below.opacity * (255 - above.opacity)

/-- A channel of a source-over composite with straight alpha, without rounding. -/
def sourceOver (above below : Rgba) (ch : ColorChannel) : ℚ :=
  (above.level ch * above.opacity * 255 + below.level ch * below.opacity * (255 - above.opacity))
    / above.totalWeight below

/-- The mean of two channels, weighted by the alpha of the upper colour alone. -/
def mean (above below : Rgba) (ch : ColorChannel) : ℚ :=
  (above.level ch * above.opacity + below.level ch * (255 - above.opacity)) / 255

/-- How laying a colour over another one compares with a source-over composite. -/
structure ComparesWithSourceOver (above below : Rgba) : Prop where
  alpha_eq : (above.over below).alpha.toNat
    = above.alpha.toNat + below.alpha.toNat * (255 - above.alpha.toNat) / 255
  /-- A channel is the mean, rounded to the nearest number. -/
  near_mean : ∀ ch, |(above.over below).level ch - above.mean below ch| ≤ 127 / 255
  /-- The mean lies beyond the composite, on the side of the lower colour. -/
  mean_sub_sourceOver : (above.over below).alpha ≠ 0 → ∀ ch,
    above.mean below ch - above.sourceOver below ch
      = (below.level ch - above.level ch)
        * (above.opacity * (255 - above.opacity) * (255 - below.opacity))
        / (255 * above.totalWeight below)
  /-- The composite is met where one of the colours is opaque or the upper one is not there. -/
  near_sourceOver : (above.over below).alpha ≠ 0 →
    above.alpha = 255 ∨ above.alpha = 0 ∨ below.alpha = 255 →
      ∀ ch, |(above.over below).level ch - above.sourceOver below ch| ≤ 127 / 255
  /-- A composite over a transparent pixel is the upper colour. -/
  sourceOver_eq : below.alpha = 0 → above.alpha ≠ 0 → ∀ ch,
    above.sourceOver below ch = above.level ch
  /-- Over a transparent pixel a colour is itself only if it differs little enough from the one that
  is hidden there. -/
  eq_above_iff : below.alpha = 0 → above.alpha ≠ 0 →
    (above.over below = above ↔
      ∀ ch, |above.level ch - below.level ch| * (255 - above.opacity) ≤ 127)

/-! ## What is computed -/

variable (above below : Rgba) (ch : ColorChannel)

lemma toNat_channel_over : ((above.over below).channel ch).toNat
    = overChannel above.alpha.toNat (above.channel ch).toNat (below.channel ch).toNat := by
  by_cases hzero : above.alpha = 0
  · rw [over_of_alpha_eq_zero hzero, hzero]
    change _ = (_ * 0 + (below.channel ch).toNat * 255 + 127) / 255
    omega
  · exact (blends_over above below).channel_eq hzero ch

lemma toNat_alpha_over : (above.over below).alpha.toNat
    = above.alpha.toNat + below.alpha.toNat * (255 - above.alpha.toNat) / 255 := by
  by_cases hzero : above.alpha = 0
  · rw [over_of_alpha_eq_zero hzero, hzero]
    change _ = 0 + below.alpha.toNat * 255 / 255
    omega
  · have habove := toNat_le_limit above.alpha
    have hpart := Nat.mul_le_mul_right (255 - above.alpha.toNat) (toNat_le_limit below.alpha)
    rw [(blends_over above below).alpha_eq hzero, overAlpha, channelLimit]
    omega

variable {above} in
lemma opacity_eq_zero (h : above.alpha = 0) : above.opacity = 0 := by
  rw [opacity, h]
  rfl

variable {above} in
lemma opacity_eq_max (h : above.alpha = 255) : above.opacity = 255 := by
  rw [opacity, h]
  rfl

variable {above} in
lemma opacity_pos (h : above.alpha ≠ 0) : 0 < above.opacity :=
  Nat.cast_pos.mpr (Nat.pos_of_ne_zero fun hnone => h (UInt8.toNat_inj.mp hnone))

lemma opacity_le : above.opacity ≤ 255 := Nat.cast_le_ofNat.mpr (toNat_le_limit above.alpha)

lemma opacity_nonneg : 0 ≤ above.opacity := Nat.cast_nonneg _

/-- The part of a pixel that the upper colour lets through. -/
lemma cast_uncovered : ((255 - above.alpha.toNat : ℕ) : ℚ) = 255 - above.opacity := by
  rw [Nat.cast_sub (toNat_le_limit above.alpha), opacity]
  rfl

/-- A colour is its hue and its alpha. -/
lemma eq_of_sameHue {c d : Rgba} (hhue : c.SameHue d) (halpha : c.alpha = d.alpha) : c = d := by
  have hred : c.red = d.red := hhue .red
  have hgreen : c.green = d.green := hhue .green
  have hblue : c.blue = d.blue := hhue .blue
  cases c
  cases d
  simp only at hred hgreen hblue halpha
  subst hred hgreen hblue halpha
  rfl

/-! ## The two rules -/

lemma abs_level_sub_mean_le : |(above.over below).level ch - above.mean below ch| ≤ 127 / 255 := by
  have hrounded := abs_roundedDiv_sub_le ((above.channel ch).toNat * above.alpha.toNat
    + (below.channel ch).toNat * (255 - above.alpha.toNat))
  rw [Nat.cast_add, Nat.cast_mul, Nat.cast_mul, cast_uncovered] at hrounded
  rw [level, toNat_channel_over]
  exact hrounded

variable {above below} in
lemma totalWeight_pos (h : (above.over below).alpha ≠ 0) : 0 < above.totalWeight below := by
  have hthrough : 0 ≤ 255 - above.opacity := sub_nonneg.mpr above.opacity_le
  by_cases hzero : above.alpha = 0
  · rw [over_of_alpha_eq_zero hzero] at h
    have hbelow := opacity_pos h
    rw [totalWeight, opacity_eq_zero hzero]
    linarith
  · have habove := opacity_pos hzero
    have hlower := mul_nonneg below.opacity_nonneg hthrough
    rw [totalWeight]
    linarith

variable {above below} in
lemma mean_sub_sourceOver_eq (h : (above.over below).alpha ≠ 0) :
    above.mean below ch - above.sourceOver below ch
      = (below.level ch - above.level ch)
        * (above.opacity * (255 - above.opacity) * (255 - below.opacity))
        / (255 * above.totalWeight below) := by
  have hweight := (totalWeight_pos h).ne'
  rw [mean, sourceOver, div_sub_div _ _ (by norm_num) hweight]
  congr 1
  rw [totalWeight]
  ring

variable {above below} in
lemma sourceOver_eq_level (hbelow : below.alpha = 0) (habove : above.alpha ≠ 0) :
    above.sourceOver below ch = above.level ch := by
  have hweight : above.opacity * 255 ≠ 0 := mul_ne_zero (opacity_pos habove).ne' (by norm_num)
  rw [sourceOver, totalWeight, opacity_eq_zero hbelow, mul_zero, zero_mul, add_zero, add_zero,
    mul_assoc, mul_div_cancel_right₀ _ hweight]

variable {above below} in
/-- A channel stays what it was in the upper colour if the two channels differ little enough. -/
lemma channel_over_eq_iff : (above.over below).channel ch = above.channel ch ↔
    |above.level ch - below.level ch| * (255 - above.opacity) ≤ 127 := by
  have hthrough : (0 : ℚ) ≤ 255 - above.opacity := sub_nonneg.mpr above.opacity_le
  have hsplit : (above.channel ch).toNat * above.alpha.toNat
      + (above.channel ch).toNat * (255 - above.alpha.toNat) = (above.channel ch).toNat * 255 := by
    rw [← Nat.mul_add, Nat.add_sub_cancel' (toNat_le_limit above.alpha)]
  rw [← UInt8.toNat_inj, toNat_channel_over, overChannel, channelLimit, ← abs_of_nonneg hthrough,
    ← abs_mul, sub_mul, ← cast_uncovered, level, level, abs_le, ← Nat.cast_mul, ← Nat.cast_mul]
  generalize (above.channel ch).toNat * (255 - above.alpha.toNat) = kept at hsplit ⊢
  generalize (below.channel ch).toNat * (255 - above.alpha.toNat) = mixed
  have hbounds : (-127 ≤ (kept : ℚ) - mixed ∧ (kept : ℚ) - mixed ≤ 127)
      ↔ mixed ≤ kept + 127 ∧ kept ≤ mixed + 127 := by
    rw [neg_le_sub_iff_le_add, sub_le_iff_le_add']
    norm_cast
  rw [hbounds]
  omega

/-- **Colours are mixed as if the lower one were opaque.**  The alpha of two colours is that of a
source-over composite with straight alpha, but their channels are weighed by the alpha of the upper
one alone, so that they meet the composite where one of the colours is opaque or the upper one is
not there. -/
theorem over_comparesWithSourceOver (above below : Rgba) : ComparesWithSourceOver above below where
  alpha_eq := toNat_alpha_over above below
  near_mean := abs_level_sub_mean_le above below
  mean_sub_sourceOver h ch := mean_sub_sourceOver_eq ch h
  near_sourceOver h hopaque ch := by
    have hsame := mean_sub_sourceOver_eq ch h
    have hfactor : above.opacity * (255 - above.opacity) * (255 - below.opacity) = 0 := by
      rcases hopaque with habove | habove | hbelow
      · rw [opacity_eq_max habove, sub_self, mul_zero, zero_mul]
      · rw [opacity_eq_zero habove, zero_mul, zero_mul]
      · rw [opacity_eq_max hbelow, sub_self, mul_zero]
    rw [hfactor, mul_zero, zero_div, sub_eq_zero] at hsame
    rw [← hsame]
    exact abs_level_sub_mean_le above below ch
  sourceOver_eq hbelow habove ch := sourceOver_eq_level ch hbelow habove
  eq_above_iff hbelow habove := by
    have halpha : (above.over below).alpha = above.alpha := by
      rw [← UInt8.toNat_inj, toNat_alpha_over, hbelow]
      change _ + 0 * _ / 255 = _
      rw [Nat.zero_mul, Nat.zero_div, Nat.add_zero]
    constructor
    · intro hsame ch
      exact (channel_over_eq_iff ch).mp (by rw [hsame])
    · intro hclose
      exact eq_of_sameHue (fun ch => (channel_over_eq_iff ch).mpr (hclose ch)) halpha

/-- White with half an alpha over a transparent pixel becomes grey, because the black that is hidden
in the pixel is mixed in; a composite would be white.  This is the pixel of a canvas. -/
theorem over_not_sourceOver :
    (¬∀ (above below : Rgba) (ch : ColorChannel), (above.over below).alpha ≠ 0 →
      |(above.over below).level ch - max 0 (min 255 (above.sourceOver below ch))| ≤ 1) ∧
    (¬∀ above below : Rgba, above.alpha ≠ 0 → below.alpha = 0 → above.over below = above) ∧
    ((Image.blank 1 1 ⟨0, 0, 0, 0⟩).blit ⟨255, 255, 255, 128⟩ ⟨1, 1, .mask, #[255]⟩ 0 0).rows
      = [[⟨128, 128, 128, 128⟩]] := by
  refine ⟨fun h => ?_, fun h => ?_, by decide +kernel⟩
  · have hred := h ⟨255, 255, 255, 128⟩ ⟨0, 0, 0, 0⟩ .red (by decide)
    have hlevel : (Rgba.over ⟨255, 255, 255, 128⟩ ⟨0, 0, 0, 0⟩).channel .red = 128 := by decide
    rw [sourceOver_eq_level .red rfl (by decide), level, hlevel] at hred
    change |((128 : ℕ) : ℚ) - max 0 (min 255 ((255 : ℕ) : ℚ))| ≤ 1 at hred
    norm_num at hred
  · exact absurd (h ⟨255, 255, 255, 128⟩ ⟨0, 0, 0, 0⟩ (by decide) rfl) (by decide)

end Rgba
end GlyphGrid
