import GlyphGrid.Cell.Hash
import GlyphGrid.Text.Quoted
import GlyphGrid.Text.Utf8

/-!
# The content of a cell

A cell shows one character, which may be a base with marks after it.  `CellBuffer` holds the
bytes of that sequence at the front of a storage that only grows, and only to the size needed:
`CellBuffer.content` are the bytes, `CellBuffer.capacity` the size of the storage.  Two buffers
are the same key of a table when their contents agree, whatever their storages hold beyond them.
-/

namespace GlyphGrid

/-- The bytes of one cell at the front of a growing storage. -/
structure CellBuffer where
  /-- The storage; what lies beyond `length` is left over from earlier contents. -/
  storage : List UInt8
  length : Nat
  length_le : length ≤ storage.length

namespace CellBuffer

/-- The storage of a buffer made without content. -/
def defaultCapacity : Nat := 6

/-- The size of the storage. -/
def capacity (b : CellBuffer) : Nat := b.storage.length

/-- The bytes that the cell shows. -/
def content (b : CellBuffer) : List UInt8 := b.storage.take b.length

/-- Whether the cell shows nothing. -/
def isEmpty (b : CellBuffer) : Bool := b.length == 0

/-- An empty buffer with the default storage. -/
def empty : CellBuffer :=
  ⟨List.replicate defaultCapacity 0, 0, Nat.zero_le _⟩

instance : Inhabited CellBuffer := ⟨empty⟩

/-- A buffer whose storage is exactly the given bytes, or an empty one if there are none. -/
def ofBytes (bytes : List UInt8) : CellBuffer :=
  if bytes.isEmpty then empty else ⟨bytes, bytes.length, Nat.le_refl _⟩

/-- A buffer with the first `length` bytes of a source that may be missing. -/
def ofParts? (source : Option (List UInt8)) (length : Nat) : Except GlyphError CellBuffer :=
  if length = 0 then .ok empty
  else match source with
    | none => .error (.invalidArgument .missingSource)
    | some bytes =>
      if bytes.length < length then .error (.invalidArgument .shortSource)
      else .ok (ofBytes (bytes.take length))

/-- A buffer with the bytes of a text. -/
def ofText (text : String) : CellBuffer :=
  ofBytes (Utf8.encodeText text)

/-- A buffer with the characters of the given numbers. -/
def ofPoints? (points : List Nat) : Except GlyphError CellBuffer :=
  (Utf8.encodePoints points).map ofBytes

/-- A copy with the same content and storage size; storage beyond the content is cleared. -/
def duplicate (b : CellBuffer) : CellBuffer where
  storage := b.content ++ List.replicate (b.capacity - b.length) 0
  length := b.length
  length_le := by
    have := b.length_le
    simp only [content, capacity, List.length_append, List.length_take, List.length_replicate]
    omega

/-- A copy of the content and of all the storage, with what is left over in it. -/
def clone (b : CellBuffer) : CellBuffer :=
  ⟨b.storage, b.length, b.length_le⟩

/-- The storage enlarged to `size` bytes, if it is smaller. -/
def grow (b : CellBuffer) (size : Nat) : CellBuffer where
  storage := b.storage ++ List.replicate (size - b.capacity) 0
  length := b.length
  length_le := by
    have := b.length_le
    simp only [List.length_append]
    omega

/-- The storage with `bytes` written over it from position `start`. -/
def overwrite (storage : List UInt8) (start : Nat) (bytes : List UInt8) : List UInt8 :=
  storage.take start ++ bytes ++ storage.drop (start + bytes.length)

theorem length_overwrite (storage : List UInt8) (start : Nat) (bytes : List UInt8)
    (h : start + bytes.length ≤ storage.length) :
    (overwrite storage start bytes).length = storage.length := by
  simp only [overwrite, List.length_append, List.length_take, List.length_drop]
  omega

theorem le_length_grow (b : CellBuffer) (size : Nat) : size ≤ (b.grow size).storage.length := by
  simp only [grow, capacity, List.length_append, List.length_replicate]
  omega

/-- Replaces the content. -/
def setBytes (b : CellBuffer) (bytes : List UInt8) : CellBuffer where
  storage := overwrite (b.grow bytes.length).storage 0 bytes
  length := bytes.length
  length_le := by
    have h := le_length_grow b bytes.length
    rw [length_overwrite _ _ _ (by omega)]
    exact h

/-- Replaces the content by that of another buffer. -/
def setFrom (b other : CellBuffer) : CellBuffer :=
  b.setBytes other.content

/-- Replaces the content by the characters of the given numbers. -/
def setPoints? (b : CellBuffer) (points : List Nat) : Except GlyphError CellBuffer :=
  (Utf8.encodePoints points).map b.setBytes

/-- Puts `bytes` after the content. -/
def append (b : CellBuffer) (bytes : List UInt8) : CellBuffer where
  storage := overwrite (b.grow (b.length + bytes.length)).storage b.length bytes
  length := b.length + bytes.length
  length_le := by
    have h := le_length_grow b (b.length + bytes.length)
    rw [length_overwrite _ _ _ h]
    exact h

/-- Forgets the content and keeps the storage. -/
def reset (b : CellBuffer) : CellBuffer :=
  ⟨b.storage, 0, Nat.zero_le _⟩

/-- Puts the characters of a cluster into the buffer: the first replaces the content and each
other is appended. -/
def fill (b : CellBuffer) (cluster : String) : CellBuffer :=
  match cluster.toList with
  | [] => b.reset
  | c :: marks =>
    marks.foldl (fun b mark => b.append (String.utf8EncodeChar mark))
      (b.reset.setBytes (String.utf8EncodeChar c))

/-- The text of the content, broken bytes replaced. -/
def text (b : CellBuffer) : String :=
  Utf8.textLossy b.content

/-- The hash of the content. -/
def hash (b : CellBuffer) : ContentHash :=
  ContentHash.ofBytes b.content

/-- A running hash after the buffer.  Its bytes are written and nothing else, not their number. -/
def feed (b : CellBuffer) (h : ContentHash) : ContentHash :=
  h.write b.content

/-- The hash of the buffer as the key of a table. -/
def tableHash (b : CellBuffer) : UInt64 :=
  (b.feed .seed).finish

/-- Two buffers are equal when their contents are. -/
instance : BEq CellBuffer := ⟨fun a b => a.length == b.length && a.content == b.content⟩

/-- How a buffer is shown in a message. -/
def describe (b : CellBuffer) : String :=
  "CharBuffer \x7b content: " ++ Text.Quoted.quote b.text
    ++ s!", len: {b.length}, capacity: {b.capacity}" ++ " \x7d"

end CellBuffer
end GlyphGrid
