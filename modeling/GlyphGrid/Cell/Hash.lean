/-!
# The hash of a cell's content

A running hash over bytes: each byte multiplies the state by 33 and is added, modulo `2 ^ 32`.
The state after some bytes depends on the bytes alone and not on the pieces they arrive in.
-/

namespace GlyphGrid

/-- The state of a hash over the bytes written so far. -/
structure ContentHash where
  value : UInt32
  deriving DecidableEq

namespace ContentHash

/-- The hash of no bytes. -/
def seed : ContentHash := ⟨5381⟩

/-- The hash after one more byte. -/
def push (h : ContentHash) (b : UInt8) : ContentHash :=
  ⟨h.value * 33 + b.toUInt32⟩

/-- The hash after more bytes. -/
def write (h : ContentHash) (bytes : List UInt8) : ContentHash :=
  bytes.foldl push h

/-- The hash of some bytes. -/
def ofBytes (bytes : List UInt8) : ContentHash :=
  seed.write bytes

/-- What a table reads off a hash at the end. -/
def finish (h : ContentHash) : UInt64 :=
  h.value.toUInt64

end ContentHash
end GlyphGrid
