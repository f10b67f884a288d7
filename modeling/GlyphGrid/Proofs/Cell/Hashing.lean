import Mathlib.Algebra.BigOperators.Fin
import Mathlib.Tactic.Ring
import GlyphGrid.Proofs.Cell.Editing

/-!
# The hash is a function of the content

A `ContentHash` is fed with pieces: some bytes, a single byte, or a whole buffer.  Where the cuts
between them are does not show, because feeding is a fold over the bytes (`foldl_writePiece`), and
the bytes enter the hash as the digits of a number to the base 33, of which the last 32 binary
digits are kept (`toNat_write`).

Equality of buffers looks at the same bytes and at nothing else, so that equal buffers are equal to
a table: they have one hash, and they take any hash to the same hash.  This is what a table needs
of its keys.  `BufferHistory` is a buffer together with all that was ever done to it, and
`hash_coherent` speaks of the bytes that a history leads to without its storage.
-/

namespace GlyphGrid

/-! ## Pieces -/

/-- A piece of what is written to a running hash. -/
inductive HashPiece where
  | bytes (bs : List UInt8)
  | byte (b : UInt8)
  | buffer (b : CellBuffer)

/-- The bytes of a piece. -/
def HashPiece.content : HashPiece → List UInt8
  | .bytes bs => bs
  | .byte b => [b]
  | .buffer b => b.content

namespace ContentHash

/-- The hash after a piece. -/
def writePiece (h : ContentHash) : HashPiece → ContentHash
  | .bytes bs => h.write bs
  | .byte b => h.write [b]
  | .buffer b => b.feed h

/-- Some bytes as the digits of a number to the base 33, the first of them the highest. -/
def digits (bytes : List UInt8) : Nat :=
  ∑ i : Fin bytes.length, (bytes.get i).toNat * 33 ^ (bytes.length - 1 - i)

/-- What is read off the hash of some bytes, by whichever way it was come by. -/
structure IsHashOf (h : ContentHash) (bytes : List UInt8) : Prop where
  eq_ofBytes : h = ofBytes bytes
  toNat_finish : h.finish.toNat = (5381 * 33 ^ bytes.length
    + ∑ i : Fin bytes.length, (bytes.get i).toNat * 33 ^ (bytes.length - 1 - i)) % 2 ^ 32

lemma write_append (h : ContentHash) (bytes more : List UInt8) :
    h.write (bytes ++ more) = (h.write bytes).write more :=
  List.foldl_append

lemma writePiece_eq_write (h : ContentHash) (piece : HashPiece) :
    h.writePiece piece = h.write piece.content := by
  cases piece with
  | bytes bs => rfl
  | byte b => rfl
  | buffer b => rfl

/-- The cuts between pieces do not show. -/
lemma foldl_writePiece (h : ContentHash) (pieces : List HashPiece) :
    pieces.foldl writePiece h = h.write (pieces.flatMap HashPiece.content) := by
  induction pieces generalizing h with
  | nil => rfl
  | cons piece pieces ih =>
    rw [List.foldl_cons, List.flatMap_cons, ih, writePiece_eq_write, write_append]

/-! ## The number behind a hash -/

lemma toNat_push (h : ContentHash) (b : UInt8) :
    (h.push b).value.toNat = (h.value.toNat * 33 + b.toNat) % 2 ^ 32 := by
  simp [push]

lemma digits_cons (b : UInt8) (bytes : List UInt8) :
    digits (b :: bytes) = b.toNat * 33 ^ bytes.length + digits bytes := by
  unfold digits
  simp only [List.length_cons]
  rw [Fin.sum_univ_succ]
  congr 1
  refine Finset.sum_congr rfl fun i _ => ?_
  have hplace : bytes.length + 1 - 1 - (i.succ : Nat) = bytes.length - 1 - i := by
    rw [Fin.val_succ]
    omega
  rw [hplace]
  rfl

/-- Writing bytes puts their digits behind the number so far.  What overflows on the way can be
left in the number and taken off at the end. -/
lemma toNat_write (h : ContentHash) (bytes : List UInt8) :
    (h.write bytes).value.toNat
      = (h.value.toNat * 33 ^ bytes.length + digits bytes) % 2 ^ 32 := by
  induction bytes generalizing h with
  | nil => simp [write, digits]
  | cons b bytes ih =>
    have hstep : (h.write (b :: bytes)).value.toNat
        = ((h.value.toNat * 33 + b.toNat) % 2 ^ 32 * 33 ^ bytes.length + digits bytes)
          % 2 ^ 32 := by
      rw [← toNat_push]
      exact ih (h.push b)
    calc (h.write (b :: bytes)).value.toNat
        = ((h.value.toNat * 33 + b.toNat) * 33 ^ bytes.length + digits bytes) % 2 ^ 32 := by
          rw [hstep, Nat.add_mod, Nat.mod_mul_mod, ← Nat.add_mod]
      _ = (h.value.toNat * 33 ^ (b :: bytes).length + digits (b :: bytes)) % 2 ^ 32 := by
          rw [digits_cons, List.length_cons]
          ring_nf

lemma toNat_finish (h : ContentHash) : h.finish.toNat = h.value.toNat :=
  UInt32.toNat_toUInt64 h.value

lemma isHashOf_ofBytes (bytes : List UInt8) : (ofBytes bytes).IsHashOf bytes := by
  refine ⟨rfl, ?_⟩
  rw [toNat_finish, ofBytes, toNat_write, seed, digits]
  rfl

end ContentHash

/-! ## Buffers and all that was done to them -/

/-- A buffer that was made and changed. -/
structure BufferHistory where
  origin : BufferOrigin
  made : CellBuffer
  make_eq : origin.make = .ok made
  changes : List BufferChange

namespace BufferHistory

/-- The buffer at the end. -/
def buffer (t : BufferHistory) : CellBuffer := t.made.after t.changes

/-- The bytes that the edits of all changes lead to from those that the origin has. -/
def bytes (t : BufferHistory) : List UInt8 :=
  (t.changes.flatMap BufferChange.edits).foldl ContentEdit.apply
    (t.origin.initial.toOption.elim [] Prod.fst)

lemma content_buffer (t : BufferHistory) : t.buffer.content = t.bytes := by
  have hinitial := CellBuffer.make_eq_initial t.origin
  rw [t.make_eq] at hinitial
  rw [buffer, (CellBuffer.Edited.after t.made t.changes).content_eq, bytes, ← hinitial]
  rfl

end BufferHistory

/-- How two buffers compare, given the bytes that they should hold. -/
structure KeysAgree (a b : CellBuffer) (bytes others : List UInt8) : Prop where
  contents : a.content = bytes ∧ b.content = others
  /-- Equality sees the bytes and neither the storage nor its size. -/
  beq_iff : (a == b) = true ↔ bytes = others
  hash_isHashOf : a.hash.IsHashOf bytes
  tableHash_eq_hash : a.tableHash = a.hash.finish
  hash_eq : (a == b) = true → a.hash = b.hash
  tableHash_eq : (a == b) = true → a.tableHash = b.tableHash
  /-- Equal buffers take a hash on in the same way. -/
  feed_eq : (a == b) = true → ∀ h : ContentHash, a.feed h = b.feed h

lemma keysAgree_of_content_eq {a b : CellBuffer} {bytes others : List UInt8}
    (ha : a.content = bytes) (hb : b.content = others) : KeysAgree a b bytes others := by
  subst ha hb
  have hfeed : (a == b) = true → ∀ h : ContentHash, a.feed h = b.feed h := by
    intro hsame h
    rw [CellBuffer.feed, (a.beq_iff_content_eq b).mp hsame, CellBuffer.feed]
  refine ⟨⟨rfl, rfl⟩, a.beq_iff_content_eq b, ContentHash.isHashOf_ofBytes a.content, rfl, ?_, ?_,
    hfeed⟩
  · intro hsame
    exact hfeed hsame .seed
  · intro hsame
    rw [CellBuffer.tableHash, hfeed hsame, CellBuffer.tableHash]

/-- **Hashing is coherent with equality.**  Pieces that are written one after the other have the
hash of their bytes, and buffers that are equal after all that was done to them have one hash. -/
theorem hash_coherent :
    (∀ pieces : List HashPiece, (pieces.foldl ContentHash.writePiece .seed).IsHashOf
      (pieces.flatMap HashPiece.content)) ∧
    ∀ s t : BufferHistory, KeysAgree s.buffer t.buffer s.bytes t.bytes := by
  constructor
  · intro pieces
    rw [ContentHash.foldl_writePiece]
    exact ContentHash.isHashOf_ofBytes _
  · intro s t
    exact keysAgree_of_content_eq s.content_buffer t.content_buffer

example : (CellBuffer.ofText "a").tableHash = 33 * 5381 + 97 := by decide

end GlyphGrid
