import Mathlib.Tactic.Common
import GlyphGrid.Raster.Image

/-!
# Colours over colours

Laying a colour over another one rounds three times: the coverage of a sample, the mean of two
channels, and the alpha of the two together.  None of the roundings leaves the bounds.  `Blends`
says so of one pixel: what is computed fits in a byte, each channel lies between the two that went
into it, and the alpha does not fall.

A mean of two channels is rounded to the nearest integer, but one between two integers cannot be
rounded past either (`overChannel_between`); the alpha is rounded down, and still no lower than the
one below (`le_overAlpha`).
-/

namespace GlyphGrid

/-- The channels of a colour other than its alpha. -/
inductive ColorChannel where
  | red
  | green
  | blue
  deriving DecidableEq

namespace Rgba

/-- A channel of a colour. -/
def channel (c : Rgba) : ColorChannel → UInt8
  | .red => c.red
  | .green => c.green
  | .blue => c.blue

/-- Two colours that differ at most in their alpha. -/
def SameHue (c d : Rgba) : Prop := ∀ ch, c.channel ch = d.channel ch

/-- A colour is laid over another one without any loss. -/
structure Blends (above below result : Rgba) : Prop where
  /-- Nothing is cut off where the mean of two channels becomes a byte. -/
  channel_eq : above.alpha ≠ 0 → ∀ ch, (result.channel ch).toNat
    = overChannel above.alpha.toNat (above.channel ch).toNat (below.channel ch).toNat
  alpha_eq : above.alpha ≠ 0 →
    result.alpha.toNat = overAlpha above.alpha.toNat below.alpha.toNat
  eq_below : above.alpha = 0 → result = below
  between : ∀ ch, min (above.channel ch).toNat (below.channel ch).toNat ≤ (result.channel ch).toNat
    ∧ (result.channel ch).toNat ≤ max (above.channel ch).toNat (below.channel ch).toNat
  alpha_le : below.alpha.toNat ≤ result.alpha.toNat

end Rgba

/-! ## Rounding within bounds -/

section

variable {alpha above below : Nat}

/-- A rounded mean lies between the two numbers. -/
lemma overChannel_between (above below : Nat) (h : alpha ≤ 255) :
    min above below ≤ overChannel alpha above below ∧
      overChannel alpha above below ≤ max above below := by
  have hsum : ∀ n, n * alpha + n * (255 - alpha) = n * 255 := by
    intro n
    rw [← Nat.mul_add, Nat.add_sub_cancel' h]
  have hlow := hsum (min above below)
  have hhigh := hsum (max above below)
  have hlow_above : min above below * alpha ≤ above * alpha :=
    Nat.mul_le_mul_right alpha (Nat.min_le_left above below)
  have hlow_below : min above below * (255 - alpha) ≤ below * (255 - alpha) :=
    Nat.mul_le_mul_right (255 - alpha) (Nat.min_le_right above below)
  have hhigh_above : above * alpha ≤ max above below * alpha :=
    Nat.mul_le_mul_right alpha (Nat.le_max_left above below)
  have hhigh_below : below * (255 - alpha) ≤ max above below * (255 - alpha) :=
    Nat.mul_le_mul_right (255 - alpha) (Nat.le_max_right above below)
  unfold overChannel channelLimit
  omega

/-- The alpha of two colours is at least that of the lower one. -/
lemma le_overAlpha (habove : above ≤ 255) (hbelow : below ≤ 255) :
    below ≤ overAlpha above below := by
  have hsplit : below * (255 - above) + below * above = below * 255 := by
    rw [← Nat.mul_add, Nat.sub_add_cancel habove]
  have hpart : below * above ≤ 255 * above := Nat.mul_le_mul_right above hbelow
  unfold overAlpha channelLimit
  omega

lemma overAlpha_le (above below : Nat) : overAlpha above below ≤ 255 :=
  Nat.min_le_left _ _

end

/-- A number that fits in a byte is the byte. -/
lemma toNat_ofNat_of_le {n : Nat} (h : n ≤ 255) : (UInt8.ofNat n).toNat = n :=
  UInt8.toNat_ofNat_of_lt' (Nat.lt_succ_of_le h)

lemma toNat_le_limit (b : UInt8) : b.toNat ≤ 255 := Nat.le_of_lt_succ b.toNat_lt

namespace Rgba

/-! ## One pixel -/

lemma over_of_alpha_eq_zero {above : Rgba} (h : above.alpha = 0) (below : Rgba) :
    above.over below = below := by
  simp [Rgba.over, h]

lemma channel_over {above : Rgba} (h : above.alpha ≠ 0) (below : Rgba) (ch : ColorChannel) :
    (above.over below).channel ch = UInt8.ofNat
      (overChannel above.alpha.toNat (above.channel ch).toNat (below.channel ch).toNat) := by
  have hpos : above.alpha.toNat ≠ 0 := fun hzero => h (UInt8.toNat_inj.mp hzero)
  simp only [Rgba.over, hpos, if_false]
  cases ch <;> rfl

lemma alpha_over {above : Rgba} (h : above.alpha ≠ 0) (below : Rgba) :
    (above.over below).alpha
      = UInt8.ofNat (overAlpha above.alpha.toNat below.alpha.toNat) := by
  have hpos : above.alpha.toNat ≠ 0 := fun hzero => h (UInt8.toNat_inj.mp hzero)
  simp only [Rgba.over, hpos, if_false]

lemma blends_over (above below : Rgba) : Blends above below (above.over below) := by
  by_cases hzero : above.alpha = 0
  · rw [over_of_alpha_eq_zero hzero]
    exact ⟨fun h => absurd hzero h, fun h => absurd hzero h, fun _ => rfl,
      fun ch => ⟨Nat.min_le_right _ _, Nat.le_max_right _ _⟩, Nat.le_refl _⟩
  · have hbetween := fun ch => overChannel_between (above.channel ch).toNat
      (below.channel ch).toNat (toNat_le_limit above.alpha)
    have hchannel : ∀ ch, ((above.over below).channel ch).toNat = overChannel above.alpha.toNat
        (above.channel ch).toNat (below.channel ch).toNat := by
      intro ch
      rw [channel_over hzero, toNat_ofNat_of_le]
      exact Nat.le_trans (hbetween ch).2 (Nat.max_le.mpr ⟨toNat_le_limit _, toNat_le_limit _⟩)
    have halpha : (above.over below).alpha.toNat
        = overAlpha above.alpha.toNat below.alpha.toNat := by
      rw [alpha_over hzero, toNat_ofNat_of_le (overAlpha_le _ _)]
    refine ⟨fun _ => hchannel, fun _ => halpha, fun h => absurd h hzero, fun ch => ?_, ?_⟩
    · rw [hchannel]
      exact hbetween ch
    · rw [halpha]
      exact le_overAlpha (toNat_le_limit _) (toNat_le_limit _)

/-! ## Many colours over one pixel -/

/-- The colour that some colours make when they are laid over one, the first of them first. -/
def underAll (below : Rgba) (sources : List Rgba) : Rgba :=
  sources.foldl (fun below above => above.over below) below

lemma alpha_le_underAll (below : Rgba) (sources : List Rgba) :
    below.alpha.toNat ≤ (below.underAll sources).alpha.toNat := by
  induction sources generalizing below with
  | nil => exact Nat.le_refl _
  | cons above sources ih =>
    exact Nat.le_trans (blends_over above below).alpha_le (ih (above.over below))

/-- Colours of one hue move a pixel towards that hue and not beyond it. -/
lemma channel_underAll_between {hue : Rgba} {sources : List Rgba}
    (h : ∀ source ∈ sources, source.SameHue hue) (below : Rgba) (ch : ColorChannel) :
    min (below.channel ch).toNat (hue.channel ch).toNat
        ≤ ((below.underAll sources).channel ch).toNat ∧
      ((below.underAll sources).channel ch).toNat
        ≤ max (below.channel ch).toNat (hue.channel ch).toNat := by
  induction sources generalizing below with
  | nil => exact ⟨Nat.min_le_left _ _, Nat.le_max_left _ _⟩
  | cons above sources ih =>
    rw [List.forall_mem_cons] at h
    have hstep := (blends_over above below).between ch
    have hrest := ih h.2 (above.over below)
    rw [h.1 ch] at hstep
    change _ ≤ (((above.over below).underAll sources).channel ch).toNat ∧
      (((above.over below).underAll sources).channel ch).toNat ≤ _
    omega

end Rgba

/-! ## Samples -/

namespace Bitmap

/-- What a sample lays over its pixel: the colour that it holds, or the colour of the text with an
alpha that is scaled by a coverage. -/
inductive Samples (foreground : Rgba) (bytes : List UInt8) : Rgba → Prop
  | color (r g b a : UInt8) (rest : List UInt8) (h : bytes = r :: g :: b :: a :: rest) :
    Samples foreground bytes ⟨r, g, b, a⟩
  /-- Nothing is cut off where the scaled alpha becomes a byte. -/
  | tint (coverage : Nat) (s : Rgba) (hcoverage : coverage ≤ 255) (hue : s.SameHue foreground)
    (halpha : s.alpha.toNat = coverage * foreground.alpha.toNat / channelLimit) :
    Samples foreground bytes s

lemma samples_tint (foreground : Rgba) (bytes : List UInt8) {coverage : Nat}
    (h : coverage ≤ 255) : Samples foreground bytes (tint foreground coverage) := by
  refine .tint coverage _ h (fun ch => by cases ch <;> rfl) (toNat_ofNat_of_le ?_)
  have hproduct : coverage * foreground.alpha.toNat ≤ 255 * 255 :=
    Nat.mul_le_mul h (toNat_le_limit _)
  unfold channelLimit
  omega

variable {b : Bitmap} {foreground s : Rgba} {column row : Nat}

lemma samples_of_source? (h : b.source? foreground column row = some s) :
    Samples foreground (b.sample column row) s := by
  unfold source? at h
  split at h
  · next r g b a rest _ hsample =>
    rw [← Option.some.inj h, hsample]
    exact .color r g b a rest rfl
  · next r g b _ _ _ =>
    have hr := toNat_le_limit r
    have hg := toNat_le_limit g
    have hb := toNat_le_limit b
    rw [← Option.some.inj h]
    exact samples_tint _ _ (by omega)
  · next m _ _ _ _ =>
    rw [← Option.some.inj h]
    exact samples_tint _ _ (toNat_le_limit m)
  · cases h

/-- A mask has the hue of the text. -/
lemma sameHue_of_source? (hkind : b.kind ≠ .color)
    (h : b.source? foreground column row = some s) : s.SameHue foreground := by
  unfold source? at h
  split at h
  · next hcolor _ => exact absurd hcolor hkind
  · rw [← Option.some.inj h]
    exact fun ch => by cases ch <;> rfl
  · rw [← Option.some.inj h]
    exact fun ch => by cases ch <;> rfl
  · cases h

end Bitmap
end GlyphGrid
