import GlyphGrid.Raster.Color

/-!
# Pictures

An `Image` is a rectangle of pixels.  A `Bitmap` is a smaller rectangle of samples that is laid over
it: coverage of the colour of the text, or colours of its own.  `Image.blit` lays every sample over
the pixel it falls on with `Rgba.over`; samples that fall beside the image are lost.
-/

namespace GlyphGrid

/-- The greatest value of a channel. -/
def channelLimit : Nat := 255

/-- A channel over another one, weighted by the alpha of the upper one. -/
def overChannel (alpha above below : Nat) : Nat :=
  (above * alpha + below * (channelLimit - alpha) + channelLimit / 2) / channelLimit

/-- The alpha of a colour over another one. -/
def overAlpha (above below : Nat) : Nat :=
  min channelLimit (above + below * (channelLimit - above) / channelLimit)

/-- The colour `above` laid over the colour `below`. -/
def Rgba.over (above below : Rgba) : Rgba :=
  let alpha := above.alpha.toNat
  let channel (a b : UInt8) : UInt8 := UInt8.ofNat (overChannel alpha a.toNat b.toNat)
  if alpha = 0 then below
  else ⟨channel above.red below.red, channel above.green below.green,
    channel above.blue below.blue, UInt8.ofNat (overAlpha alpha below.alpha.toNat)⟩

/-! ## Bitmaps -/

/-- What the samples of a bitmap say. -/
inductive BitmapKind where
  | mask
  /-- How much of each third of the pixel is covered. -/
  | subpixelMask
  | color
  deriving DecidableEq

/-- A rectangle of samples, row by row from the top. -/
structure Bitmap where
  width : Nat
  height : Nat
  kind : BitmapKind
  data : Array UInt8

namespace Bitmap

/-- The number of bytes in a sample. -/
def stride (b : Bitmap) : Nat := b.data.size / (b.width * b.height)

/-- The bytes of a sample. -/
def sample (b : Bitmap) (column row : Nat) : List UInt8 :=
  let offset := (row * b.width + column) * b.stride
  (b.data.extract offset (offset + b.stride)).toList

/-- The colour of the text where `coverage` of it covers a pixel. -/
def tint (foreground : Rgba) (coverage : Nat) : Rgba :=
  ⟨foreground.red, foreground.green, foreground.blue,
    UInt8.ofNat (coverage * foreground.alpha.toNat / channelLimit)⟩

/-- The colour that a sample lays over its pixel. -/
def source? (b : Bitmap) (foreground : Rgba) (column row : Nat) : Option Rgba :=
  match b.kind, b.sample column row with
  | .color, r :: g :: b :: a :: _ => some ⟨r, g, b, a⟩
  | .subpixelMask, r :: g :: b :: _ => some (tint foreground ((r.toNat + g.toNat + b.toNat) / 3))
  | _, m :: _ => some (tint foreground m.toNat)
  | _, [] => none

end Bitmap

/-! ## Images -/

/-- A rectangle of pixels, row by row from the top. -/
structure Image where
  width : Nat
  height : Nat
  pixels : Array Rgba
  size_eq : pixels.size = width * height

namespace Image

/-- An image of one colour. -/
def blank (width height : Nat) (color : Rgba) : Image :=
  ⟨width, height, Array.replicate (width * height) color, Array.size_replicate⟩

/-- Whether a place lies in an image. -/
def Contains (image : Image) (x y : Int) : Prop :=
  0 ≤ x ∧ x < image.width ∧ 0 ≤ y ∧ y < image.height

instance (image : Image) (x y : Int) : Decidable (image.Contains x y) :=
  inferInstanceAs (Decidable (_ ∧ _))

/-- Where the pixel of a place is kept. -/
def index (width : Nat) (x y : Int) : Nat := y.toNat * width + x.toNat

/-- The pixel at a place. -/
def get? (image : Image) (x y : Int) : Option Rgba :=
  if image.Contains x y then image.pixels[index image.width x y]? else none

/-- Changes the pixel at a place; nothing changes beside the image. -/
def change (image : Image) (x y : Int) (f : Rgba → Rgba) : Image :=
  if image.Contains x y then
    match image with
    | ⟨width, height, pixels, h⟩ =>
      ⟨width, height, pixels.modify (index width x y) f, by rw [Array.size_modify, h]⟩
  else image

/-- Lays one sample of a bitmap over its pixel. -/
def blitSample (foreground : Rgba) (b : Bitmap) (left top : Int) (column row : Nat)
    (image : Image) : Image :=
  match b.source? foreground column row with
  | none => image
  | some color => image.change (left + column) (top + row) color.over

/-- Lays one row of a bitmap over its pixels. -/
def blitRow (foreground : Rgba) (b : Bitmap) (left top : Int) (row : Nat) (image : Image) :
    Image :=
  b.width.fold (fun column _ image => blitSample foreground b left top column row image) image

/-- Lays a bitmap over the pixels, its top left corner at `(left, top)`. -/
def blit (foreground : Rgba) (b : Bitmap) (left top : Int) (image : Image) : Image :=
  b.height.fold (fun row _ image => blitRow foreground b left top row image) image

/-- The rows of an image. -/
def rows (image : Image) : List (List Rgba) :=
  (List.range image.height).map fun y =>
    (image.pixels.extract (y * image.width) ((y + 1) * image.width)).toList

end Image
end GlyphGrid
