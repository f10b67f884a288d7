import Mathlib.Algebra.Group.Int.Defs
import Mathlib.Tactic.Common
import GlyphGrid.Proofs.Raster.Painting

/-!
# A blit, pixel by pixel

Laying a bitmap over an image is two loops over samples, each of which changes one pixel or none.
Since no two samples fall on one pixel, the loops come down to one step for each pixel
(`get?_blit`): a pixel below the bitmap has the colour of its sample laid over it, and any other
pixel stays as it is.  `Bitmap.Lays` says which colour that is in terms of the bytes of the bitmap
alone.

What is true of pixels is then true of whole images, as an image is known by its size and its pixels
(`eq_of_get?_eq`).  A blit goes through a crop (`crop_blit`), and bitmaps that do not meet can be
laid in either order (`blit_comm`).

`blit?` is the same pair of loops with a failure for every number that is too large for its word,
every byte that is read beyond the data and every pixel that is written beside the image.  It never
fails (`blit?_eq_some`).
-/

namespace GlyphGrid

/-! ## Places in a list of rows -/

section

variable {width height column row : Nat}

lemma place_lt (hcolumn : column < width) (hrow : row < height) :
    row * width + column < width * height := by
  have hrows := Nat.mul_le_mul_right width hrow
  rw [Nat.succ_mul] at hrows
  rw [Nat.mul_comm width]
  omega

lemma place_mod (row : Nat) (hcolumn : column < width) :
    (row * width + column) % width = column := by
  rw [Nat.mul_add_mod_self_right, Nat.mod_eq_of_lt hcolumn]

lemma place_div (row : Nat) (hcolumn : column < width) : (row * width + column) / width = row := by
  rw [Nat.mul_comm, Nat.mul_add_div (Nat.zero_lt_of_lt hcolumn), Nat.div_eq_of_lt hcolumn,
    Nat.add_zero]

end

/-! ## Samples -/

/-- A colour has the hue of the foreground, and its alpha is that of the foreground scaled by a
coverage. -/
structure Rgba.IsTint (foreground : Rgba) (coverage : Nat) (s : Rgba) : Prop where
  hue : s.SameHue foreground
  alpha_eq : s.alpha.toNat = coverage * foreground.alpha.toNat / 255

namespace Bitmap

variable {b : Bitmap} {foreground : Rgba} {column row : Nat}

/-- A bitmap with its top left corner at `(left, top)` has a sample for a place. -/
def Covers (b : Bitmap) (left top x y : Int) : Prop :=
  left ≤ x ∧ x < left + b.width ∧ top ≤ y ∧ y < top + b.height

instance (b : Bitmap) (left top x y : Int) : Decidable (b.Covers left top x y) :=
  inferInstanceAs (Decidable (_ ∧ _))

/-- Where the bytes of a sample begin. -/
def offset (b : Bitmap) (column row : Nat) : Nat := (row * b.width + column) * b.stride

/-- What a sample lays over its pixel, told by the bytes of the data. -/
inductive Lays (b : Bitmap) (foreground : Rgba) (column row : Nat) : Option Rgba → Prop
  | color (s : Rgba) (kind : b.kind = .color) (stride : 4 ≤ b.stride)
    (red : b.data[b.offset column row]? = some s.red)
    (green : b.data[b.offset column row + 1]? = some s.green)
    (blue : b.data[b.offset column row + 2]? = some s.blue)
    (alpha : b.data[b.offset column row + 3]? = some s.alpha) :
    Lays b foreground column row (some s)
  /-- Three thirds of a pixel are covered as much as their mean. -/
  | thirds (s : Rgba) (r g bl : UInt8) (kind : b.kind = .subpixelMask) (stride : 3 ≤ b.stride)
    (first : b.data[b.offset column row]? = some r)
    (second : b.data[b.offset column row + 1]? = some g)
    (third : b.data[b.offset column row + 2]? = some bl)
    (tint : foreground.IsTint ((r.toNat + g.toNat + bl.toNat) / 3) s) :
    Lays b foreground column row (some s)
  /-- Where there are too few bytes for a colour or for thirds, the first one is a coverage. -/
  | mask (s : Rgba) (m : UInt8) (noColor : ¬(b.kind = .color ∧ 4 ≤ b.stride))
    (noThirds : ¬(b.kind = .subpixelMask ∧ 3 ≤ b.stride)) (stride : 0 < b.stride)
    (first : b.data[b.offset column row]? = some m) (tint : foreground.IsTint m.toNat s) :
    Lays b foreground column row (some s)
  | nothing (stride : b.stride = 0) : Lays b foreground column row none

/-- The bytes of a sample lie in the data. -/
lemma offset_add_stride_le (hcolumn : column < b.width) (hrow : row < b.height) :
    b.offset column row + b.stride ≤ b.data.size := by
  calc b.offset column row + b.stride
      = (row * b.width + column + 1) * b.stride := by rw [offset, Nat.succ_mul]
    _ ≤ b.width * b.height * b.stride := Nat.mul_le_mul_right b.stride (place_lt hcolumn hrow)
    _ = b.data.size / (b.width * b.height) * (b.width * b.height) := by
        rw [Nat.mul_comm, stride]
    _ ≤ b.data.size := Nat.div_mul_le_self _ _

lemma length_of_sample_eq {bytes : List UInt8} (hsample : b.sample column row = bytes)
    (hcolumn : column < b.width) (hrow : row < b.height) : bytes.length = b.stride := by
  have hinside := offset_add_stride_le hcolumn hrow
  rw [offset] at hinside
  rw [← hsample]
  simp only [sample, Array.length_toList, Array.size_extract]
  omega

/-- The bytes of a sample are those of the data from its offset on. -/
lemma getElem?_of_sample_eq {bytes : List UInt8} (hsample : b.sample column row = bytes) {i : Nat}
    {m : UInt8} (h : bytes[i]? = some m) : b.data[b.offset column row + i]? = some m := by
  simp only [← hsample, sample, Array.getElem?_toList, Array.getElem?_extract] at h
  split at h
  · exact h
  · cases h

lemma isTint_tint (foreground : Rgba) {coverage : Nat} (h : coverage ≤ 255) :
    foreground.IsTint coverage (tint foreground coverage) := by
  refine ⟨fun ch => by cases ch <;> rfl, toNat_ofNat_of_le ?_⟩
  have hproduct : coverage * foreground.alpha.toNat ≤ 255 * 255 :=
    Nat.mul_le_mul h (toNat_le_limit _)
  unfold channelLimit
  omega

variable (foreground) in
/-- What a sample is read as is what its bytes lay. -/
lemma lays_source? (hcolumn : column < b.width) (hrow : row < b.height) :
    b.Lays foreground column row (b.source? foreground column row) := by
  unfold source?
  split
  · next r g bl a rest hkind hsample =>
    have hlength := length_of_sample_eq hsample hcolumn hrow
    have hbyte := fun i m => getElem?_of_sample_eq hsample (i := i) (m := m)
    exact .color _ hkind (by rw [← hlength]; exact Nat.le_add_left 4 _) (hbyte 0 _ rfl)
      (hbyte 1 _ rfl) (hbyte 2 _ rfl) (hbyte 3 _ rfl)
  · next r g bl rest hkind hsample =>
    have hlength := length_of_sample_eq hsample hcolumn hrow
    have hbyte := fun i m => getElem?_of_sample_eq hsample (i := i) (m := m)
    have hr := toNat_le_limit r
    have hg := toNat_le_limit g
    have hbl := toNat_le_limit bl
    exact .thirds _ r g bl hkind (by rw [← hlength]; exact Nat.le_add_left 3 _) (hbyte 0 _ rfl)
      (hbyte 1 _ rfl) (hbyte 2 _ rfl) (isTint_tint foreground (by omega))
  · next m rest hsample hcolor hthirds =>
    have hlength := length_of_sample_eq hsample hcolumn hrow
    refine .mask _ m ?_ ?_ ?_ (getElem?_of_sample_eq hsample (i := 0) rfl)
      (isTint_tint foreground (toNat_le_limit m))
    · rintro ⟨hkind, hstride⟩
      rw [← hlength] at hstride
      match rest, hstride with
      | g :: bl :: a :: rest, _ => exact hcolor g bl a rest hkind rfl
    · rintro ⟨hkind, hstride⟩
      rw [← hlength] at hstride
      match rest, hstride with
      | g :: bl :: rest, _ => exact hthirds g bl rest hkind rfl
    · rw [← hlength]
      exact Nat.succ_pos _
  · next hsample =>
    exact .nothing (length_of_sample_eq hsample hcolumn hrow).symm

end Bitmap

/-! ## Pixels -/

namespace Image

/-- A pixel inside an image is kept at its index. -/
lemma index_lt {image : Image} {x y : Int} (h : image.Contains x y) :
    index image.width x y < image.pixels.size := by
  obtain ⟨p, hp⟩ := exists_get?_eq_some h
  rw [get?, if_pos h] at hp
  exact (Array.getElem?_eq_some_iff.mp hp).1

/-- Different places are kept at different indices. -/
lemma index_inj {image : Image} {x y x' y' : Int} (h : image.Contains x y)
    (h' : image.Contains x' y') (hindex : index image.width x y = index image.width x' y') :
    x = x' ∧ y = y' := by
  obtain ⟨hx, hxw, hy, -⟩ := h
  obtain ⟨hx', hxw', hy', -⟩ := h'
  have hcolumn : x.toNat < image.width := by omega
  have hcolumn' : x'.toNat < image.width := by omega
  have hmod := congrArg (· % image.width) hindex
  have hdiv := congrArg (· / image.width) hindex
  simp only [index, place_mod _ hcolumn, place_mod _ hcolumn', place_div _ hcolumn,
    place_div _ hcolumn'] at hmod hdiv
  omega

lemma get?_eq_none {image : Image} {x y : Int} (h : ¬image.Contains x y) :
    image.get? x y = none := if_neg h

/-- One pixel is changed and no other. -/
lemma get?_change_eq (image : Image) (x y x' y' : Int) (f : Rgba → Rgba) :
    (image.change x y f).get? x' y'
      = (image.get? x' y').map (if x = x' ∧ y = y' then f else id) := by
  by_cases hinside' : image.Contains x' y'
  · by_cases hinside : image.Contains x y
    · have hpixel : (image.change x y f).get? x' y'
          = (image.pixels.modify (index image.width x y) f)[index image.width x' y']? := by
        rw [change, if_pos hinside]
        exact if_pos hinside'
      rw [hpixel, Array.getElem?_modify, get?, if_pos hinside']
      by_cases hplace : x = x' ∧ y = y'
      · rw [if_pos hplace, hplace.1, hplace.2, if_pos rfl]
      · rw [if_neg hplace, if_neg (fun h => hplace (index_inj hinside hinside' h)),
          Option.map_id_apply]
    · have hplace : ¬(x = x' ∧ y = y') := by
        rintro ⟨rfl, rfl⟩
        exact hinside hinside'
      rw [change, if_neg hinside, if_neg hplace, Option.map_id_apply]
  · have hout : ¬(image.change x y f).Contains x' y' := by
      rwa [Contains, (image.size_change x y f).1, (image.size_change x y f).2]
    rw [get?_eq_none hout, get?_eq_none hinside', Option.map_none]

/-! ## Blits -/

variable (foreground : Rgba) (b : Bitmap) (left top : Int)

/-- The colour below a sample after the sample was laid over it. -/
def overlay (column row : Nat) (below : Rgba) : Rgba :=
  (b.source? foreground column row).elim below (·.over below)

/-- Of the steps of a loop only the one with number `k` changes a certain pixel, if it is taken. -/
lemma get?_fold {x y k : Int} {f : Rgba → Rgba} (step : Nat → Image → Image)
    (hstep : ∀ (i : Nat) (image : Image),
      (step i image).get? x y = (image.get? x y).map (if (i : Int) = k then f else id))
    (count : Nat) (image : Image) :
    (count.fold (fun i _ image => step i image) image).get? x y
      = (image.get? x y).map (if 0 ≤ k ∧ k < count then f else id) := by
  induction count with
  | zero =>
    rw [Nat.fold_zero, if_neg (by omega), Option.map_id_apply]
  | succ count ih =>
    rw [Nat.fold_succ, hstep, ih, Option.map_map]
    congr 1
    by_cases hnow : (count : Int) = k
    · rw [if_pos hnow, if_neg (by omega), if_pos (by omega), Function.comp_id]
    · rw [if_neg hnow, Function.id_comp]
      congr 1
      exact propext (by omega)

lemma get?_blitSample (column row : Nat) (image : Image) (x y : Int) :
    (blitSample foreground b left top column row image).get? x y = (image.get? x y).map
      (if left + column = x ∧ top + row = y then overlay foreground b column row else id) := by
  unfold blitSample
  cases hsource : b.source? foreground column row with
  | none =>
    have hid : overlay foreground b column row = id := by
      funext below
      rw [overlay, hsource, Option.elim_none, id]
    rw [hid, ite_self, Option.map_id_apply]
  | some color =>
    have hover : overlay foreground b column row = color.over := by
      funext below
      rw [overlay, hsource, Option.elim_some]
    rw [hover]
    exact get?_change_eq image _ _ x y color.over

/-- A row of samples changes one row of pixels, each by its own sample. -/
lemma get?_blitRow (row : Nat) (image : Image) (x y : Int) :
    (blitRow foreground b left top row image).get? x y = (image.get? x y).map
      (if (row : Int) = y - top then
        if 0 ≤ x - left ∧ x - left < b.width then
          overlay foreground b (x - left).toNat (y - top).toNat else id
      else id) := by
  unfold blitRow
  by_cases hrow : (row : Int) = y - top
  · rw [if_pos hrow, get?_fold (blitSample foreground b left top · row)]
    intro column image
    rw [get?_blitSample]
    congr 1
    by_cases hcolumn : (column : Int) = x - left
    · rw [if_pos (by omega), if_pos hcolumn, ← hcolumn, ← hrow, Int.toNat_natCast,
        Int.toNat_natCast]
    · rw [if_neg (by omega), if_neg hcolumn]
  · -- No sample of another row falls on the place: the loop has no step that matters.
    rw [if_neg hrow, get?_fold (k := -1) (f := id) (blitSample foreground b left top · row),
      ite_self]
    intro column image
    rw [get?_blitSample, if_neg (by omega), ite_self]

/-- Every pixel below a bitmap has the colour of one sample laid over it, and no other pixel is
changed. -/
lemma get?_blit (image : Image) (x y : Int) :
    (image.blit foreground b left top).get? x y = (image.get? x y).map
      (if b.Covers left top x y then
        overlay foreground b (x - left).toNat (y - top).toNat else id) := by
  rw [blit, get?_fold (blitRow foreground b left top)
    fun row image => get?_blitRow foreground b left top row image x y]
  congr 1
  by_cases hcovers : b.Covers left top x y
  · rw [if_pos hcovers]
    obtain ⟨hleft, hright, htop, hbottom⟩ := hcovers
    rw [if_pos (by omega), if_pos (by omega)]
  · rw [if_neg hcovers]
    by_cases hrow : 0 ≤ y - top ∧ y - top < b.height
    · rw [if_pos hrow, if_neg (fun hcolumn => hcovers (by unfold Bitmap.Covers; omega))]
    · rw [if_neg hrow]

lemma size_blit (image : Image) : (image.blit foreground b left top).width = image.width ∧
    (image.blit foreground b left top).height = image.height :=
  ⟨(painted_blit foreground b left top image).width_eq,
    (painted_blit foreground b left top image).height_eq⟩

/-! ## Images as their pixels -/

lemma contains_natCast {image : Image} {column row : Nat} (hcolumn : column < image.width)
    (hrow : row < image.height) : image.Contains column row :=
  ⟨Int.natCast_nonneg column, Int.ofNat_lt.mpr hcolumn, Int.natCast_nonneg row,
    Int.ofNat_lt.mpr hrow⟩

lemma get?_natCast {image : Image} {column row : Nat} (hcolumn : column < image.width)
    (hrow : row < image.height) :
    image.get? column row = image.pixels[row * image.width + column]? :=
  if_pos (contains_natCast hcolumn hrow)

/-- An image is its size and the pixels at all places. -/
lemma eq_of_get?_eq {image later : Image} (hwidth : later.width = image.width)
    (hheight : later.height = image.height) (h : ∀ x y, later.get? x y = image.get? x y) :
    later = image := by
  obtain ⟨width, height, pixels, hsize⟩ := image
  obtain ⟨width', height', pixels', hsize'⟩ := later
  obtain rfl : width' = width := hwidth
  obtain rfl : height' = height := hheight
  congr 1
  refine Array.ext_getElem? fun i => ?_
  by_cases hi : i < width' * height'
  · have hcolumn : i % width' < width' :=
      Nat.mod_lt i (Nat.pos_of_mul_pos_right (Nat.zero_lt_of_lt hi))
    have hrow : i / width' < height' := Nat.div_lt_of_lt_mul hi
    have hpixel := h (i % width' : Nat) (i / width' : Nat)
    rwa [get?_natCast hcolumn hrow, get?_natCast hcolumn hrow, Nat.div_add_mod'] at hpixel
  · rw [Array.getElem?_eq_none (by rw [hsize']; exact Nat.le_of_not_lt hi),
      Array.getElem?_eq_none (by rw [hsize]; exact Nat.le_of_not_lt hi)]

/-- The part of an image in a rectangle, as far as the image goes. -/
def crop (image : Image) (x y width height : Nat) : Image where
  width := min width (image.width - x)
  height := min height (image.height - y)
  pixels := Array.ofFn fun i : Fin (min width (image.width - x) * min height (image.height - y)) =>
    let column := x + i % min width (image.width - x)
    let row := y + i / min width (image.width - x)
    (image.get? column row).get <| by
      have hcolumn := Nat.mod_lt i (Nat.pos_of_mul_pos_right (Nat.zero_lt_of_lt i.isLt))
      have hrow := Nat.div_lt_of_lt_mul i.isLt
      exact Option.isSome_iff_exists.mpr <| exists_get?_eq_some <| contains_natCast
        (Nat.add_lt_of_lt_sub' (Nat.lt_of_lt_of_le hcolumn (Nat.min_le_right _ _)))
        (Nat.add_lt_of_lt_sub' (Nat.lt_of_lt_of_le hrow (Nat.min_le_right _ _)))
  size_eq := Array.size_ofFn

lemma width_crop (image : Image) (x y width height : Nat) :
    (image.crop x y width height).width = min width (image.width - x) := rfl

lemma height_crop (image : Image) (x y width height : Nat) :
    (image.crop x y width height).height = min height (image.height - y) := rfl

lemma get?_crop (image : Image) (x y width height : Nat) (i j : Int) :
    (image.crop x y width height).get? i j
      = if 0 ≤ i ∧ i < width ∧ 0 ≤ j ∧ j < height then image.get? (x + i) (y + j) else none := by
  by_cases hinside : (image.crop x y width height).Contains i j
  · obtain ⟨hi, hiw, hj, hjh⟩ := hinside
    obtain ⟨column, rfl⟩ := Int.eq_ofNat_of_zero_le hi
    obtain ⟨row, rfl⟩ := Int.eq_ofNat_of_zero_le hj
    have hcolumn : column < min width (image.width - x) := Int.ofNat_lt.mp hiw
    have hrow : row < min height (image.height - y) := Int.ofNat_lt.mp hjh
    have hplace : (image.crop x y width height).get? column row
        = (image.crop x y width height).pixels[row * min width (image.width - x) + column]? :=
      get?_natCast hcolumn hrow
    rw [hplace, if_pos (by omega)]
    simp only [crop, Array.getElem?_ofFn, dif_pos (place_lt hcolumn hrow), place_mod row hcolumn,
      place_div row hcolumn, Option.some_get, Int.natCast_add]
  · rw [get?_eq_none hinside]
    split
    · next hrectangle =>
      refine (get?_eq_none fun hcontains => hinside ?_).symm
      simp only [Contains, crop] at hcontains ⊢
      omega
    · rfl

/-- A blit goes through a crop: it makes no difference whether pixels are cut off before or
after. -/
lemma crop_blit (image : Image) (x y width height : Nat) :
    (image.blit foreground b left top).crop x y width height
      = (image.crop x y width height).blit foreground b (left - x) (top - y) := by
  have hsize := size_blit foreground b left top image
  have hsize' := size_blit foreground b (left - x) (top - y) (image.crop x y width height)
  refine eq_of_get?_eq ?_ ?_ fun i j => ?_
  · rw [hsize'.1, width_crop, width_crop, hsize.1]
  · rw [hsize'.2, height_crop, height_crop, hsize.2]
  · rw [get?_blit, get?_crop, get?_crop, get?_blit]
    have hcolumn : x + i - left = i - (left - x) := by omega
    have hrow : y + j - top = j - (top - y) := by omega
    have hcovers : b.Covers left top (x + i) (y + j) ↔ b.Covers (left - x) (top - y) i j := by
      unfold Bitmap.Covers
      omega
    rw [hcolumn, hrow]
    simp only [hcovers]
    split
    · rfl
    · rw [Option.map_none]

variable {foreground b left top} in
/-- Bitmaps that do not meet can be laid over an image in either order. -/
lemma blit_comm {foreground' : Rgba} {b' : Bitmap} {left' top' : Int}
    (h : ∀ x y, ¬(b.Covers left top x y ∧ b'.Covers left' top' x y)) (image : Image) :
    (image.blit foreground b left top).blit foreground' b' left' top'
      = (image.blit foreground' b' left' top').blit foreground b left top := by
  refine eq_of_get?_eq ?_ ?_ fun x y => ?_
  · simp only [size_blit]
  · simp only [size_blit]
  · simp only [get?_blit, Option.map_map]
    congr 1
    by_cases hcovers : b.Covers left top x y
    · rw [if_neg fun hcovers' => h x y ⟨hcovers, hcovers'⟩, Function.id_comp, Function.comp_id]
    · rw [if_neg hcovers, Function.id_comp, Function.comp_id]

/-! ## Blits that can fail -/

/-- A number, if 64 bits with a sign can hold it. -/
def signedWord? (n : Int) : Option Int := if -2 ^ 63 ≤ n ∧ n < 2 ^ 63 then some n else none

/-- Changes the pixel that is kept at an index, if there is one. -/
def modify? (image : Image) (i : Nat) (f : Rgba → Rgba) : Option Image :=
  if i < image.pixels.size then
    some ⟨image.width, image.height, image.pixels.modify i f,
      by rw [Array.size_modify, image.size_eq]⟩
  else none

/-- Lays one sample over its pixel.  It fails where a coordinate is too large, where the data end
before the sample does, and where the pixel is not in the image. -/
def blitSample? (column row : Nat) (image : Image) : Option Image := do
  let x ← signedWord? (left + column)
  let y ← signedWord? (top + row)
  if image.Contains x y then
    if b.offset column row + b.stride ≤ b.data.size then
      match b.source? foreground column row with
      | none => some image
      | some color => image.modify? (index image.width x y) color.over
    else none
  else some image

/-- Lays one row over its pixels, if no sample fails. -/
def blitRow? (row : Nat) (image : Image) : Option Image :=
  b.width.fold (fun column _ image => image.bind (blitSample? foreground b left top column row))
    (some image)

/-- Lays a bitmap over the pixels, if no sample fails. -/
def blit? (image : Image) : Option Image :=
  b.height.fold (fun row _ image => image.bind (blitRow? foreground b left top row)) (some image)

variable {foreground b left top}

lemma signedWord?_eq_some {n : Int} (hlow : -2 ^ 63 ≤ n) (hhigh : n < 2 ^ 63) :
    signedWord? n = some n := if_pos ⟨hlow, hhigh⟩

lemma modify?_index {image : Image} {x y : Int} (h : image.Contains x y) (f : Rgba → Rgba) :
    image.modify? (index image.width x y) f = some (image.change x y f) := by
  rw [modify?, if_pos (index_lt h), change, if_pos h]

/-- Steps that do not fail make a loop that does not fail. -/
lemma fold_bind_eq_some {count : Nat} {step? : Nat → Image → Option Image}
    {step : Nat → Image → Image} (h : ∀ i < count, ∀ image, step? i image = some (step i image))
    (image : Image) : count.fold (fun i _ image => image.bind (step? i)) (some image)
      = some (count.fold (fun i _ image => step i image) image) := by
  induction count with
  | zero => rfl
  | succ count ih =>
    rw [Nat.fold_succ, Nat.fold_succ, ih fun i hi => h i (Nat.lt_succ_of_lt hi), Option.bind_some,
      h count (Nat.lt_succ_self count)]

/-- The edges of a bitmap at a place are numbers of 64 bits. -/
structure InWords (b : Bitmap) (left top : Int) : Prop where
  left_ge : -2 ^ 63 ≤ left
  right_lt : left + b.width < 2 ^ 63
  top_ge : -2 ^ 63 ≤ top
  bottom_lt : top + b.height < 2 ^ 63

lemma blitSample?_eq_some (h : InWords b left top) {column row : Nat} (hcolumn : column < b.width)
    (hrow : row < b.height) (image : Image) : blitSample? foreground b left top column row image
      = some (blitSample foreground b left top column row image) := by
  obtain ⟨hleft, hright, htop, hbottom⟩ := h
  rw [blitSample?, signedWord?_eq_some (by omega) (by omega),
    signedWord?_eq_some (by omega) (by omega)]
  simp only [Option.bind_eq_bind, Option.bind_some,
    if_pos (Bitmap.offset_add_stride_le hcolumn hrow)]
  unfold blitSample
  by_cases hinside : image.Contains (left + column) (top + row)
  · rw [if_pos hinside]
    cases b.source? foreground column row with
    | none => rfl
    | some color => exact modify?_index hinside color.over
  · rw [if_neg hinside]
    cases b.source? foreground column row with
    | none => rfl
    | some color => exact congrArg some (if_neg hinside).symm

/-- Nothing fails in a blit whose edges are numbers of 64 bits. -/
lemma blit?_eq_some (h : InWords b left top) (image : Image) :
    image.blit? foreground b left top = some (image.blit foreground b left top) :=
  fold_bind_eq_some (fun _ hrow image => fold_bind_eq_some
    (fun _ hcolumn image => blitSample?_eq_some h hcolumn hrow image) image) image

/-! ## The whole -/

/-- What a blit does to an image. -/
structure CompositesPointwise (foreground : Rgba) (b : Bitmap) (left top : Int) (image : Image) :
    Prop where
  size_eq : (image.blit foreground b left top).width = image.width ∧
    (image.blit foreground b left top).height = image.height
  outside : ∀ x y, ¬b.Covers left top x y →
    (image.blit foreground b left top).get? x y = image.get? x y
  /-- A pixel below the bitmap has the colour of its sample laid over it, if the sample has one. -/
  inside : ∀ x y p, b.Covers left top x y → image.get? x y = some p →
    ∃ source, b.Lays foreground (x - left).toNat (y - top).toNat source ∧
      (image.blit foreground b left top).get? x y = some (source.elim p (·.over p))
  /-- No coordinate overflows, and nothing is read or written out of bounds. -/
  in_bounds : InWords b left top →
    image.blit? foreground b left top = some (image.blit foreground b left top)
  crop_eq : ∀ x y width height, (image.blit foreground b left top).crop x y width height
    = (image.crop x y width height).blit foreground b (left - x) (top - y)
  comm : ∀ (foreground' : Rgba) (b' : Bitmap) (left' top' : Int),
    (∀ x y, ¬(b.Covers left top x y ∧ b'.Covers left' top' x y)) →
      (image.blit foreground b left top).blit foreground' b' left' top'
        = (image.blit foreground' b' left' top').blit foreground b left top

/-- **A blit is a composite of its pixels.**  Whatever the image, the bitmap and its place, each
pixel is the old one, or the old one below the colour of its own sample; a blit goes through a crop
and past another blit, and it never leaves the image, the data or the range of its numbers. -/
theorem blit_compositesPointwise (foreground : Rgba) (b : Bitmap) (left top : Int)
    (image : Image) : CompositesPointwise foreground b left top image where
  size_eq := size_blit foreground b left top image
  outside x y hout := by rw [get?_blit, if_neg hout, Option.map_id_apply]
  inside x y p hcovers hp := by
    refine ⟨_, Bitmap.lays_source? foreground ?_ ?_, ?_⟩
    · obtain ⟨hleft, hright, -, -⟩ := hcovers
      omega
    · obtain ⟨-, -, htop, hbottom⟩ := hcovers
      omega
    · rw [get?_blit, if_pos hcovers, hp]
      rfl
  in_bounds h := blit?_eq_some h image
  crop_eq := crop_blit foreground b left top image
  comm _ _ _ _ h := blit_comm h image

/-- Of a mask that sticks out at the upper edge and at the right one, four samples fall on the
image. -/
example :
    let black : Rgba := ⟨0, 0, 0, 255⟩
    let white : Rgba := ⟨255, 255, 255, 255⟩
    ((blank 4 4 black).blit white ⟨3, 3, .mask, Array.replicate 9 255⟩ 2 (-1)).rows
      = [[black, black, white, white], [black, black, white, white],
        [black, black, black, black], [black, black, black, black]] := by
  decide +kernel

end Image
end GlyphGrid
