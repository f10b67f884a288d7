import GlyphGrid.Raster.Image

/-!
# Pictures as files

`Png.encode` writes an image as a PNG file: a signature and three chunks, each with a checksum.  The
pixels stand in a stream of stored blocks, so nothing is compressed.
-/

namespace GlyphGrid.Png

/-- A number in four bytes, the greatest first. -/
def bigEndian (n : Nat) : List UInt8 :=
  [24, 16, 8, 0].map fun shift => UInt8.ofNat (n >>> shift)

/-- A number in two bytes, the least first. -/
def littleEndian (n : Nat) : List UInt8 := [UInt8.ofNat n, UInt8.ofNat (n >>> 8)]

/-! ## Checksums -/

/-- One bit out of the remainder of a cyclic code. -/
def cyclicShift (c : UInt32) : UInt32 :=
  if c &&& 1 = 1 then (c >>> 1) ^^^ 0xEDB88320 else c >>> 1

/-- One byte into the remainder of a cyclic code. -/
def cyclicStep (c : UInt32) (b : UInt8) : UInt32 :=
  (List.range 8).foldl (fun c _ => cyclicShift c) (c ^^^ b.toUInt32)

/-- The checksum of a chunk. -/
def cyclicSum (bytes : List UInt8) : UInt32 := bytes.foldl cyclicStep 0xFFFFFFFF ^^^ 0xFFFFFFFF

/-- The modulus of the checksum of a stream. -/
def streamModulus : Nat := 65521

/-- One byte into the two sums of a stream. -/
def streamStep (sums : Nat × Nat) (b : UInt8) : Nat × Nat :=
  let first := (sums.1 + b.toNat) % streamModulus
  (first, (sums.2 + first) % streamModulus)

/-- The checksum of a stream. -/
def streamSum (bytes : List UInt8) : Nat :=
  let sums := bytes.foldl streamStep (1, 0)
  sums.2 * 65536 + sums.1

/-! ## Streams -/

/-- The most bytes in a stored block. -/
def blockLimit : Nat := 65535

/-- A stored block. -/
def block (isLast : Bool) (bytes : List UInt8) : List UInt8 :=
  (if isLast then 1 else 0) :: littleEndian bytes.length
    ++ littleEndian (blockLimit - bytes.length) ++ bytes

/-- Stored blocks with some bytes; `count` of them are full. -/
def blocks : Nat → List UInt8 → List UInt8
  | 0, bytes => block true bytes
  | count + 1, bytes =>
    block false (bytes.take blockLimit) ++ blocks count (bytes.drop blockLimit)

/-- A stream with some bytes. -/
def stream (bytes : List UInt8) : List UInt8 :=
  [0x78, 0x01] ++ blocks (bytes.length / blockLimit) bytes ++ bigEndian (streamSum bytes)

/-! ## Files -/

/-- A chunk with a name of four letters. -/
def chunk (name : String) (bytes : List UInt8) : List UInt8 :=
  let named := name.toList.map (fun c => UInt8.ofNat c.toNat) ++ bytes
  bigEndian bytes.length ++ named ++ bigEndian (cyclicSum named).toNat

/-- The bytes that every file begins with. -/
def signature : List UInt8 := [0x89, 0x50, 0x4E, 0x47, 0x0D, 0x0A, 0x1A, 0x0A]

/-- The size of an image and how its pixels are kept: four channels of eight bits. -/
def header (image : Image) : List UInt8 :=
  bigEndian image.width ++ bigEndian image.height ++ [8, 6, 0, 0, 0]

/-- The pixels of an image, each row after a byte that leaves it unfiltered. -/
def body (image : Image) : List UInt8 :=
  image.rows.flatMap fun row => 0 :: row.flatMap (·.channels)

/-- The bytes of a picture. -/
def encode (image : Image) : List UInt8 :=
  signature ++ chunk "IHDR" (header image) ++ chunk "IDAT" (stream (body image)) ++ chunk "IEND" []

end GlyphGrid.Png
