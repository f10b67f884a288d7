import GlyphGrid.Raster.Area
import GlyphGrid.Raster.Image

/-!
# Rasters of glyphs

A glyph at a size becomes a bitmap that has a place beside the pen: `left` columns to the right of
it, its top row `top` pixels above the baseline.  A pixel of an outline is covered as much as the
rectangles cover of its area; the layers of a glyph with colours are painted one over the other.
-/

namespace GlyphGrid

/-- A bitmap with its place beside the pen. -/
structure Raster where
  bitmap : Bitmap
  /-- How far its left column is to the right of the pen. -/
  left : Int
  /-- How far the upper edge of its top row is above the baseline. -/
  top : Int

namespace Raster

/-- Nothing. -/
def empty : Raster := ⟨⟨0, 0, .mask, #[]⟩, 0, 0⟩

/-- How much of a pixel is covered, from 0 to 255.  Rectangles have `grain` units to the pixel, and
the pixel is the one right of and above `(x, y)`. -/
def coverage (grain : Int) (areas : List Rect) (x y : Int) : Nat :=
  let pixel : Rect := ⟨x * grain, y * grain, (x + 1) * grain, (y + 1) * grain⟩
  let area := Rect.unionArea (areas.map (·.clip pixel))
  min channelLimit (256 * area / (grain * grain)).toNat

/-- The pixels that a rectangle touches: from the floor of its low edges to the ceiling of its
high ones. -/
def pixelBound (grain : Int) (r : Rect) : Rect :=
  ⟨r.left / grain, r.bottom / grain, -(-r.right / grain), -(-r.top / grain)⟩

/-- The least rectangle around some rectangles. -/
def hullOf? : List Rect → Option Rect
  | [] => none
  | r :: rest => some (rest.foldl Rect.hull r)

/-- The bytes of the pixels in a rectangle, row by row from the top. -/
def samples (bound : Rect) (pixel : Int → Int → List UInt8) : Array UInt8 :=
  let width := (bound.right - bound.left).toNat
  let height := (bound.top - bound.bottom).toNat
  height.fold (fun row _ data =>
    width.fold (fun column _ (data : Array UInt8) =>
      data.appendList (pixel (bound.left + column) (bound.top - 1 - row))) data) #[]

/-- A raster with the pixels of a rectangle. -/
def ofPixels (bound : Rect) (kind : BitmapKind) (pixel : Int → Int → List UInt8) : Raster :=
  ⟨⟨(bound.right - bound.left).toNat, (bound.top - bound.bottom).toNat, kind,
    samples bound pixel⟩, bound.left, bound.top⟩

/-- The raster of rectangles that have `grain` units to the pixel. -/
def ofAreas (grain : Int) (areas : List Rect) : Raster :=
  match hullOf? areas with
  | none => empty
  | some hull =>
    ofPixels (pixelBound grain hull) .mask fun x y =>
      [UInt8.ofNat (coverage grain areas x y)]

/-- A pixel that was painted over with `cover` of a colour. -/
def paintOver (below : Rgba) (color : Rgba) (cover : Nat) : Rgba :=
  let alpha := cover * color.alpha.toNat / 256
  let mix (b c : Nat) : UInt8 := UInt8.ofNat (((channelLimit - alpha) * b + alpha * c) / 256)
  if alpha = 0 then below
  else ⟨mix below.red.toNat color.red.toNat, mix below.green.toNat color.green.toNat,
    mix below.blue.toNat color.blue.toNat, mix below.alpha.toNat channelLimit⟩

/-- The raster of layers that have `grain` units to the pixel. -/
def ofLayers (grain : Int) (layers : List ColorLayer) : Raster :=
  match hullOf? (layers.map (·.area)) with
  | none => empty
  | some hull =>
    ofPixels (pixelBound grain hull) .color fun x y =>
      (layers.foldl (fun below l => paintOver below l.color (coverage grain [l.area] x y))
        ⟨0, 0, 0, 0⟩).channels

end Raster

/-- The raster of a shape where `scale` is the number of pixels in a font unit. -/
def GlyphShape.raster (scale : Rat) : GlyphShape → Raster
  | .outline areas => .ofAreas scale.den (areas.map fun r => r.ordered.stretch scale.num)
  | .layers painted =>
    .ofLayers scale.den (painted.map fun l => ⟨l.area.ordered.stretch scale.num, l.color⟩)

/-- The raster of a glyph at a size, if the face has the glyph. -/
def Face.raster? (f : Face) (pixelSize : Rat) (glyphId : UInt16) : Option Raster :=
  (f.shape? glyphId.toNat).map (·.raster (pixelSize / f.unitsPerEm))

end GlyphGrid
